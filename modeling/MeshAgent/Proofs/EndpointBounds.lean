import MeshAgent.Proofs.EndpointSelection
import MeshAgent.Proofs.LatencyWindow

/-!
# Bounds on the requests in flight to an endpoint

The cost of an endpoint is zero below its direct limit and `INT64_MAX` from its penalty limit
on. Between the two it is a sum of positive latencies, so that the three regimes are ordered
and only the last endpoint is ever selected at its penalty limit.
-/

namespace MeshAgent.Proofs
open MeshAgent.Foundations MeshAgent.Model

/-- A step that measures a positive latency, if it measures one, and leaves every sum below
`INT64_MAX`. -/
def MeasuringStep (t : LimitTables) (lb : LoadBalancer) (e : BalancerEvent) (lb' : LoadBalancer) :
    Prop :=
  BalancerStep t lb e lb' ∧
    (∀ i tsReqBeg now, e = .finish i tsReqBeg now → 0 < now - tsReqBeg) ∧
    ∀ i, i < lb'.numOfEnds → (lb'.historyDiffTimeLst i).diffTimeSum < int64Max

/-- The sums of the endpoints separate the three regimes of the cost. -/
structure SumsInRange (lb : LoadBalancer) : Prop where
  pos : ∀ i, i < lb.numOfEnds → 0 < (lb.historyDiffTimeLst i).diffTimeSum
  lt : ∀ i, i < lb.numOfEnds → (lb.historyDiffTimeLst i).diffTimeSum < int64Max

section

variable {t : LimitTables} {lb lb' : LoadBalancer} {n i k : Nat} {es : List BalancerEvent}
  {e : BalancerEvent}

lemma directSendLimit_le (t : LimitTables) (h : i < 3) :
    t.directSendLimit i ≤ t.penaltySendLimit i := by
  match i, h with
  | 0, _ => exact (by decide : (8 : Int) ≤ 140)
  | 1, _ => exact (by decide : (8 : Int) ≤ 200)
  | 2, _ => exact (by decide : (8 : Int) ≤ 200)

lemma estimateCost_eq (t : LimitTables) (lb : LoadBalancer) (i : Nat) :
    lb.estimateCost t i = if t.penaltySendLimit i ≤ lb.remain i then int64Max
      else if lb.remain i < t.directSendLimit i then 0
      else (lb.historyDiffTimeLst i).diffTimeSum := rfl

lemma estimateCost_le (h : SumsInRange lb) (hi : i < lb.numOfEnds) :
    lb.estimateCost t i ≤ int64Max := by
  have hlt := h.lt i hi
  rw [estimateCost_eq]
  split_ifs
  · exact Int.le_refl _
  · decide
  · exact Int.le_of_lt hlt

lemma estimateCost_eq_int64Max (h : SumsInRange lb) (hi : i < lb.numOfEnds) :
    lb.estimateCost t i = int64Max ↔ t.penaltySendLimit i ≤ lb.remain i := by
  have hlt := h.lt i hi
  rw [estimateCost_eq]
  split_ifs with hpenalty hdirect
  · simp [hpenalty]
  · simp [hpenalty, int64Max]
  · simp only [hpenalty, iff_false]
    exact Int.ne_of_lt hlt

lemma estimateCost_nonpos (h : SumsInRange lb) (hi : i < lb.numOfEnds) (h3 : i < 3) :
    lb.estimateCost t i ≤ 0 ↔ lb.remain i < t.directSendLimit i := by
  have hpos := h.pos i hi
  have hlimits := directSendLimit_le t h3
  rw [estimateCost_eq]
  split_ifs with hpenalty hdirect
  · simp only [int64Max]
    omega
  · simp [hdirect]
  · omega

lemma LeastCost.remain_lt_direct (hleast : LeastCost t lb k) (h : SumsInRange lb)
    (h3 : lb.numOfEnds ≤ 3)
    (hdirect : ∃ i, i < lb.numOfEnds ∧ lb.remain i < t.directSendLimit i) :
    lb.remain k < t.directSendLimit k := by
  obtain ⟨i, hi, hremain⟩ := hdirect
  have hk := hleast.lt
  have hcost := (estimateCost_nonpos h hi (by omega)).mpr hremain
  exact (estimateCost_nonpos h hk (by omega)).mp
    (Int.le_trans (hleast.le_cost i (Nat.zero_le i) hi) hcost)

lemma LeastCost.all_penalised (hleast : LeastCost t lb k) (h : SumsInRange lb)
    (hpenalty : t.penaltySendLimit k ≤ lb.remain k) (hi : i < lb.numOfEnds) :
    t.penaltySendLimit i ≤ lb.remain i := by
  have hcost := (estimateCost_eq_int64Max h hleast.lt).mpr hpenalty
  have hle := hleast.le_cost i (Nat.zero_le i) hi
  exact (estimateCost_eq_int64Max h hi).mp (Int.le_antisymm (estimateCost_le h hi) (hcost ▸ hle))

/-- Among endpoints at their penalty limits the scan stays at the last. -/
lemma LeastCost.eq_last (hleast : LeastCost t lb k) (h : SumsInRange lb)
    (hall : ∀ i, i < lb.numOfEnds → t.penaltySendLimit i ≤ lb.remain i) :
    k = lb.numOfEnds - 1 := by
  have hk := hleast.lt
  by_contra hne
  have hlast : lb.numOfEnds - 1 < lb.numOfEnds := by omega
  have hless := hleast.lt_cost (lb.numOfEnds - 1) (by omega) hlast
  rw [(estimateCost_eq_int64Max h hk).mpr (hall k hk),
    (estimateCost_eq_int64Max h hlast).mpr (hall _ hlast)] at hless
  exact Int.lt_irrefl _ hless

/-- What holds along a run of steps that measure positive latencies. -/
structure BalancerInv (t : LimitTables) (n : Nat) (es : List BalancerEvent) (lb : LoadBalancer) :
    Prop where
  numOfEnds_eq : lb.numOfEnds = n
  holds : ∀ i, HoldsLatencies (lb.historyDiffTimeLst i) (pushedLatencies i es)
  latency_pos : ∀ i, ∀ d ∈ pushedLatencies i es, 0 < d
  sum_lt : ∀ i, i < lb.numOfEnds → (lb.historyDiffTimeLst i).diffTimeSum < int64Max
  remain_le : ∀ i, i + 1 < n → lb.remain i ≤ t.penaltySendLimit i

lemma BalancerInv.sumsInRange (h : BalancerInv t n es lb) : SumsInRange lb := by
  refine ⟨fun i _ => ?_, h.sum_lt⟩
  rw [(h.holds i).sum_eq]
  apply List.sum_pos
  · exact fun d hd => h.latency_pos i d (List.mem_of_mem_drop hd)
  · rw [← List.length_pos_iff, List.rtake, List.length_drop]
    have hfull := (h.holds i).full
    unfold historyWindowSize at hfull ⊢
    omega

lemma pushedLatencies_pos (h : ∀ d ∈ pushedLatencies i es, 0 < d)
    (he : ∀ j tsReqBeg now, e = .finish j tsReqBeg now → 0 < now - tsReqBeg) :
    ∀ d ∈ pushedLatencies i (es ++ [e]), 0 < d := by
  intro d hd
  rw [pushedLatencies_append] at hd
  rcases List.mem_append.mp hd with hd | hd
  · exact h d hd
  · obtain ⟨tsReqBeg, now, heq, rfl⟩ := eq_finish_of_latency (Option.mem_toList.mp hd)
    exact he i tsReqBeg now heq

lemma remain_le_step (h : BalancerInv t n es lb) (hn : 1 ≤ n) (hstep : BalancerStep t lb e lb')
    (hi : i + 1 < n) : lb'.remain i ≤ t.penaltySendLimit i := by
  have hbefore := h.remain_le i hi
  have hnum := h.numOfEnds_eq
  cases hstep with
  | select =>
    have hleast : LeastCost t lb (lb.selectIndex t) := selectIndex_leastCost t (by omega)
    rw [LoadBalancer.selectEndpointTimeBased, LoadBalancer.remain_addRemain]
    split_ifs with hselected
    · have hbelow : ¬ t.penaltySendLimit i ≤ lb.remain i := by
        intro hpenalty
        rw [hselected] at hpenalty
        have hall := fun j hj => hleast.all_penalised h.sumsInRange (i := j) hpenalty hj
        have hlast := hleast.eq_last h.sumsInRange hall
        omega
      omega
    · omega
  | finish =>
    rw [LoadBalancer.remain_finish]
    split_ifs <;> omega

lemma balancerInv_step (h : BalancerInv t n es lb) (hn : 1 ≤ n)
    (hstep : MeasuringStep t lb e lb') : BalancerInv t n (es ++ [e]) lb' where
  numOfEnds_eq := (numOfEnds_balancerStep hstep.1).trans h.numOfEnds_eq
  holds i := holds_step i (h.holds i) hstep.1
  latency_pos i := pushedLatencies_pos (h.latency_pos i) hstep.2.1
  sum_lt := hstep.2.2
  remain_le _ hi := remain_le_step h hn hstep.1 hi

theorem balancerInv_run (hn : 1 ≤ n) (hrun : Run (MeasuringStep t) (initLoadBalancer n) es lb)
    (hn3 : n ≤ 3) : BalancerInv t n es lb := by
  refine Run.history (P := BalancerInv t n) hrun ?_ fun _ _ _ _ h hstep =>
    balancerInv_step h hn hstep
  have hempty := holds_run (t := t) (.nil (initLoadBalancer n))
  refine ⟨rfl, hempty, fun i d hd => ?_, fun i _ => ?_, fun i hi => ?_⟩
  · rw [pushedLatencies, measuredLatencies, List.filterMap_nil, List.append_nil] at hd
    rw [List.eq_of_mem_replicate hd]
    decide
  · exact (by decide : (50000 * historyWindowSize : Int) < int64Max)
  · rcases i with _ | _ | i
    · exact (by decide : (0 : Int) ≤ 140)
    · exact (by decide : (0 : Int) ≤ 200)
    · omega

/-- Which endpoint a selection takes in any reachable state, what it changes, and the bound
on all endpoints but the last. -/
theorem selection_bounds (hn : 1 ≤ n) (hn3 : n ≤ 3)
    (hrun : Run (MeasuringStep t) (initLoadBalancer n) es lb) :
    let k := (lb.selectEndpointTimeBased t).2
    LeastCost t lb k ∧
      (lb.selectEndpointTimeBased t).1 = { lb with
        historyDiffTimeLst := Function.update lb.historyDiffTimeLst k
          { lb.historyDiffTimeLst k with remain := lb.remain k + 1 } } ∧
      ((∃ i, i < n ∧ lb.remain i < t.directSendLimit i) →
        lb.remain k < t.directSendLimit k) ∧
      (t.penaltySendLimit k ≤ lb.remain k →
        (∀ i, i < n → t.penaltySendLimit i ≤ lb.remain i) ∧ k = n - 1) ∧
      ∀ i, i + 1 < n → lb.remain i ≤ t.penaltySendLimit i := by
  have h := balancerInv_run hn hrun hn3
  have hnum := h.numOfEnds_eq
  have hleast : LeastCost t lb (lb.selectIndex t) := selectIndex_leastCost t (by omega)
  refine ⟨hleast, rfl, ?_, ?_, h.remain_le⟩
  · intro hdirect
    exact hleast.remain_lt_direct h.sumsInRange (by omega) (hnum ▸ hdirect)
  · intro hpenalty
    have hall := fun i hi => hleast.all_penalised h.sumsInRange (i := i) hpenalty hi
    exact ⟨hnum ▸ hall, hnum ▸ hleast.eq_last h.sumsInRange hall⟩

def noLimitsBehind : LimitTables := ⟨fun _ => 0, fun _ => 0⟩

def afterSelect : LoadBalancer := ((initLoadBalancer 2).selectEndpointTimeBased noLimitsBehind).1

theorem selection_bounds_two_endpoints :
    ∃ lb, Run (MeasuringStep noLimitsBehind) (initLoadBalancer 2) [.select, .finish 1 0 7] lb ∧
      LeastCost noLimitsBehind lb 1 ∧ lb.remain 0 ≤ 140 := by
  have hselect : MeasuringStep noLimitsBehind (initLoadBalancer 2) .select afterSelect :=
    ⟨.select, nofun, by decide⟩
  have hfinish : MeasuringStep noLimitsBehind afterSelect (.finish 1 0 7)
      (afterSelect.finishEndpointTaskTimeBased 1 0 7) := by
    refine ⟨.finish, ?_, by decide⟩
    rintro i tsReqBeg now ⟨⟩
    decide
  have hrun := (Run.single hselect).snoc hfinish
  have h := selection_bounds (by decide) (by decide) hrun
  exact ⟨_, hrun, h.1, h.2.2.2.2 0 (by decide)⟩

end

end MeshAgent.Proofs
