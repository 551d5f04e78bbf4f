import MeshAgent.Foundations.SlidingWindow
import MeshAgent.Model.LoadBalancer
import Mathlib.Algebra.Order.BigOperators.Group.List
import Mathlib.Tactic.NormNum

/-!
# The latency window of an endpoint

`head` and `tail` are advanced one by one and the sum is kept up to date by one subtraction
and one addition. Along every run the ring holds the last 64 latencies and the sum is theirs.
-/

namespace MeshAgent.Proofs
open MeshAgent.Foundations MeshAgent.Model

/-- What has been pushed into the window of endpoint `i`: the 64 values it starts with and
the latencies measured since. -/
def pushedLatencies (i : Nat) (es : List BalancerEvent) : List Int :=
  List.replicate historyWindowSize 50000 ++ measuredLatencies i es

/-- The ring of a history is the window of what has been pushed. -/
def HoldsLatencies (history : HistoryDiffTime) (pushed : List Int) : Prop :=
  SlidingWindow historyWindowSize history.diffTimeHistory history.head history.tail
    history.diffTimeSum pushed

section

variable {t : LimitTables} {lb lb' : LoadBalancer} {n : Nat} {es : List BalancerEvent}
  {e : BalancerEvent}

lemma latency_finish_self (i : Nat) (tsReqBeg now : Int) :
    (BalancerEvent.finish i tsReqBeg now).latency i = some (now - tsReqBeg) := if_pos rfl

lemma eq_finish_of_latency {i : Nat} {d : Int} (h : e.latency i = some d) :
    ∃ tsReqBeg now, e = .finish i tsReqBeg now ∧ d = now - tsReqBeg := by
  cases e with
  | select => cases h
  | finish k tsReqBeg now =>
    by_cases hk : k = i
    · subst hk
      rw [latency_finish_self] at h
      cases h
      exact ⟨tsReqBeg, now, rfl, rfl⟩
    · rw [BalancerEvent.latency, if_neg hk] at h
      cases h

lemma holds_finish_self {i : Nat} {pushed : List Int} (tsReqBeg now : Int)
    (h : HoldsLatencies (lb.historyDiffTimeLst i) pushed) :
    HoldsLatencies ((lb.finishEndpointTaskTimeBased i tsReqBeg now).historyDiffTimeLst i)
      (pushed ++ [now - tsReqBeg]) := by
  have hpush := SlidingWindow.push h (now - tsReqBeg)
  simpa [HoldsLatencies, LoadBalancer.finishEndpointTaskTimeBased,
    LoadBalancer.addRemain] using hpush

/-- A step that measures nothing for an endpoint changes nothing but its `remain`. -/
lemma historyDiffTimeLst_step (hstep : BalancerStep t lb e lb') {i : Nat}
    (hlatency : e.latency i = none) :
    lb'.historyDiffTimeLst i =
      { lb.historyDiffTimeLst i with remain := (lb'.historyDiffTimeLst i).remain } := by
  cases hstep with
  | select =>
    by_cases hi : i = lb.selectIndex t
    · subst hi
      simp [LoadBalancer.selectEndpointTimeBased, LoadBalancer.addRemain]
    · simp [LoadBalancer.selectEndpointTimeBased, LoadBalancer.addRemain, hi]
  | @finish k tsReqBeg now =>
    have hi : i ≠ k := by
      rintro rfl
      rw [latency_finish_self] at hlatency
      cases hlatency
    simp [LoadBalancer.finishEndpointTaskTimeBased, LoadBalancer.addRemain, hi]

lemma pushedLatencies_append (i : Nat) (es : List BalancerEvent) (e : BalancerEvent) :
    pushedLatencies i (es ++ [e]) = pushedLatencies i es ++ (e.latency i).toList := by
  unfold pushedLatencies measuredLatencies
  rw [List.filterMap_append, List.append_assoc]
  cases h : e.latency i with
  | none => simp [h]
  | some d => simp [h]

lemma holds_step (i : Nat)
    (h : HoldsLatencies (lb.historyDiffTimeLst i) (pushedLatencies i es))
    (hstep : BalancerStep t lb e lb') :
    HoldsLatencies (lb'.historyDiffTimeLst i) (pushedLatencies i (es ++ [e])) := by
  rw [pushedLatencies_append]
  cases hlatency : e.latency i with
  | none =>
    rw [historyDiffTimeLst_step hstep hlatency, Option.toList_none, List.append_nil]
    exact h
  | some d =>
    obtain ⟨tsReqBeg, now, rfl, rfl⟩ := eq_finish_of_latency hlatency
    cases hstep with
    | finish => exact holds_finish_self tsReqBeg now h

theorem holds_run (hrun : Run (BalancerStep t) (initLoadBalancer n) es lb) (i : Nat) :
    HoldsLatencies (lb.historyDiffTimeLst i) (pushedLatencies i es) := by
  refine Run.history (P := fun es lb => HoldsLatencies (lb.historyDiffTimeLst i)
    (pushedLatencies i es)) hrun ?_ fun _ _ _ _ h hstep => holds_step i h hstep
  have hinit : HoldsLatencies initHistoryTime (List.replicate historyWindowSize 50000) :=
    SlidingWindow.replicate (by decide) 50000
  rwa [← List.append_nil (List.replicate _ _)] at hinit

lemma finishDiffTimes_fit {i : Nat} {pushed : List Int} {tsReqBeg now : Int}
    (h : HoldsLatencies (lb.historyDiffTimeLst i) pushed)
    (hlow : ∀ d ∈ pushed ++ [now - tsReqBeg], 0 ≤ d)
    (hhigh : ∀ d ∈ pushed ++ [now - tsReqBeg], d ≤ 2 ^ 56) :
    ∀ x ∈ lb.finishDiffTimes i tsReqBeg now, -(2 ^ 63) ≤ x ∧ x < 2 ^ 63 := by
  set older := (pushed.rtake historyWindowSize).tail with holder
  have hmem : ∀ d ∈ older, d ∈ pushed := fun d hd =>
    List.mem_of_mem_drop (List.mem_of_mem_tail hd)
  have hlen : older.length ≤ 63 := by
    rw [holder, List.length_tail, List.rtake, List.length_drop]
    unfold historyWindowSize
    omega
  have hsum : (lb.historyDiffTimeLst i).diffTimeSum -
      (lb.historyDiffTimeLst i).diffTimeHistory (lb.historyDiffTimeLst i).head = older.sum :=
    SlidingWindow.sum_sub_oldest h
  have hnonneg : 0 ≤ older.sum :=
    List.sum_nonneg fun d hd => hlow d (List.mem_append_left _ (hmem d hd))
  have hle : older.sum ≤ older.length • (2 ^ 56 : Int) :=
    List.sum_le_card_nsmul _ _ fun d hd => hhigh d (List.mem_append_left _ (hmem d hd))
  have hbound : older.length • (2 ^ 56 : Int) ≤ 63 * 2 ^ 56 := by
    rw [nsmul_eq_mul]
    have : (older.length : Int) ≤ 63 := by exact_mod_cast hlen
    omega
  have hnew := hlow (now - tsReqBeg) (by simp)
  have hnew' := hhigh (now - tsReqBeg) (by simp)
  intro x hx
  rw [LoadBalancer.finishDiffTimes, hsum] at hx
  rcases List.mem_cons.mp hx with rfl | hx
  · omega
  rcases List.mem_cons.mp hx with rfl | hx
  · omega
  · rw [List.mem_singleton.mp hx]
    omega

/-- The window invariant of the histories, from the initial state on. -/
theorem latency_window (hrun : Run (BalancerStep t) (initLoadBalancer n) es lb) (i : Nat) :
    let history := lb.historyDiffTimeLst i
    history.head < historyWindowSize ∧ history.tail < historyWindowSize ∧
      history.head = (history.tail + 1) % historyWindowSize ∧
      ringRead history.diffTimeHistory historyWindowSize history.head historyWindowSize =
        (List.replicate historyWindowSize 50000 ++ measuredLatencies i es).rtake
          historyWindowSize ∧
      history.diffTimeSum = ∑ k ∈ Finset.range historyWindowSize, history.diffTimeHistory k ∧
      (∀ e lb', BalancerStep t lb e lb' → e.latency i = none →
        lb'.historyDiffTimeLst i = { history with remain := lb'.remain i }) ∧
      (∀ tsReqBeg now, (∀ d ∈ measuredLatencies i es ++ [now - tsReqBeg], 0 ≤ d ∧ d ≤ 2 ^ 56) →
        ∀ x ∈ lb.finishDiffTimes i tsReqBeg now, -(2 ^ 63) ≤ x ∧ x < 2 ^ 63) := by
  have h := holds_run hrun i
  refine ⟨h.head_lt, h.tail_lt, h.head_eq, h.read_eq, SlidingWindow.sum_eq_sum_range h,
    fun e lb' hstep hlatency => historyDiffTimeLst_step hstep hlatency, ?_⟩
  intro tsReqBeg now hbounds
  have hpushed : ∀ d ∈ pushedLatencies i es ++ [now - tsReqBeg], 0 ≤ d ∧ d ≤ 2 ^ 56 := by
    intro d hd
    rw [pushedLatencies, List.append_assoc] at hd
    rcases List.mem_append.mp hd with hd | hd
    · rw [List.eq_of_mem_replicate hd]
      decide
    · exact hbounds d hd
  exact finishDiffTimes_fit h (fun d hd => (hpushed d hd).1) fun d hd => (hpushed d hd).2

theorem latency_window_one_answer :
    ∃ lb, Run (BalancerStep ⟨fun _ => 0, fun _ => 0⟩) (initLoadBalancer 2)
        [.select, .finish 1 0 7] lb ∧
      ringRead (lb.historyDiffTimeLst 1).diffTimeHistory 64 (lb.historyDiffTimeLst 1).head 64 =
        List.replicate 63 50000 ++ [7] := by
  have hrun : Run (BalancerStep ⟨fun _ => 0, fun _ => 0⟩) (initLoadBalancer 2)
      [.select, .finish 1 0 7] _ := (Run.single .select).snoc .finish
  exact ⟨_, hrun, (latency_window hrun 1).2.2.2.1⟩

end

end MeshAgent.Proofs
