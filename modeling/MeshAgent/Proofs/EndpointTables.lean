import MeshAgent.Model.EndpointTables
import MeshAgent.Proofs.EndpointSelection

/-!
# Which table entries are touched

Every index is below the number of endpoints, for any number of them. Nothing compares that
number with the sizes of the tables, and the smallest tables have three entries.
-/

namespace MeshAgent.Proofs
open MeshAgent.Foundations MeshAgent.Model

variable {t : LimitTables} {lb lb' : LoadBalancer} {n i : Nat} {e : BalancerEvent} {a : Access}
  {reply : RangeReply}

lemma etcdGetLoop_index (ptr : Mem UInt8) (skip : Bool) (size : Nat) (toks : List JsmnTok) :
    size ≤ (etcdGetLoop ptr skip size toks).2 ∧
      ∀ a ∈ (etcdGetLoop ptr skip size toks).1, a.index < (etcdGetLoop ptr skip size toks).2 := by
  induction toks generalizing skip size with
  | nil => exact ⟨Nat.le_refl size, by simp [etcdGetLoop]⟩
  | cons tok toks ih =>
    rw [etcdGetLoop]
    split_ifs
    · exact ih false size
    · obtain ⟨hsize, hindex⟩ := ih true (size + 1)
      refine ⟨by simp only; omega, ?_⟩
      intro a ha
      rcases List.mem_cons.mp ha with rfl | ha
      · exact hsize
      · exact hindex a ha
    · exact ih false size

lemma etcdGet_index (reply : RangeReply) :
    ∀ a ∈ (etcdGet reply).1, a.index < (etcdGet reply).2 := by
  unfold etcdGet
  split_ifs
  · exact (etcdGetLoop_index reply.ptr false 0 reply.toks).2
  · simp

lemma initConsumerBody_index (ha : a ∈ initConsumerBody i) : a.index = i := by
  revert a
  simp [initConsumerBody, Access.index]

lemma flatMap_range_index {body : Nat → List Access} (hbody : ∀ i, ∀ a ∈ body i, a.index = i)
    (ha : a ∈ (List.range n).flatMap body) : a.index < n := by
  obtain ⟨i, hi, ha⟩ := List.mem_flatMap.mp ha
  rw [hbody i a ha]
  exact List.mem_range.mp hi

lemma map_store_index {table : Table} (ha : a ∈ (List.range n).map (.store table)) :
    a.index < n := by
  obtain ⟨i, hi, rfl⟩ := List.mem_map.mp ha
  exact List.mem_range.mp hi

lemma startWorkEventLoopAccesses_index (ha : a ∈ startWorkEventLoopAccesses n) : a.index < n := by
  rcases List.mem_append.mp ha with ha | ha
  · exact map_store_index ha
  · refine flatMap_range_index (fun i a ha => ?_) ha
    revert a
    simp [makeConnectionAccesses, Access.index]

lemma initConsumer_eq (reply : RangeReply) :
    initConsumer reply = if (etcdGet reply).2 = 0 then ((etcdGet reply).1, none)
      else ((etcdGet reply).1 ++ (List.range (etcdGet reply).2).flatMap initConsumerBody ++
        initLoadBalancerAccesses (etcdGet reply).2, some (etcdGet reply).2) := by
  unfold initConsumer
  by_cases hret : reply.ret = 0
  · simp only [hret, ne_eq, not_true_eq_false, if_false]
  · have hnone : etcdGet reply = ([], 0) := if_neg hret
    simp only [ne_eq, hret, not_false_eq_true, if_true, hnone]

lemma initConsumer_index (ha : a ∈ (initConsumer reply).1) : a.index < (etcdGet reply).2 := by
  have hget := etcdGet_index reply
  rw [initConsumer_eq] at ha
  split_ifs at ha
  · exact hget a ha
  · simp only [List.mem_append, or_assoc] at ha
    rcases ha with ha | ha | ha
    · exact hget a ha
    · exact flatMap_range_index (fun _ _ => initConsumerBody_index) ha
    · exact map_store_index ha

lemma initConsumer_some_iff :
    (initConsumer reply).2 = some n ↔ 0 < n ∧ n = (etcdGet reply).2 := by
  rw [initConsumer_eq]
  split_ifs
  · simp only [false_iff]
    omega
  · rw [Option.some.injEq]
    omega

lemma consumerStart_index (ha : a ∈ consumerStart reply) : a.index < (etcdGet reply).2 := by
  rcases List.mem_append.mp ha with ha | ha
  · exact initConsumer_index ha
  · cases hinit : (initConsumer reply).2 with
    | none =>
      rw [hinit] at ha
      simp at ha
    | some n =>
      rw [hinit, Option.elim_some] at ha
      obtain ⟨l, hl, ha⟩ := List.mem_flatten.mp ha
      rw [List.eq_of_mem_replicate hl] at ha
      rw [← (initConsumer_some_iff.mp hinit).2]
      exact startWorkEventLoopAccesses_index ha

lemma estimateCostAccesses_index (ha : a ∈ lb.estimateCostAccesses t i) : a.index = i := by
  unfold LoadBalancer.estimateCostAccesses at ha
  rcases List.mem_append.mp ha with ha | ha
  · revert a
    simp [Access.index]
  · split_ifs at ha
    · simp at ha
    · rw [List.mem_singleton.mp ha]
      rfl

lemma selectAccesses_index (hpos : 0 < lb.numOfEnds) (ha : a ∈ lb.selectAccesses t) :
    a.index < lb.numOfEnds := by
  have hselected := (selectIndex_leastCost t hpos).lt
  unfold LoadBalancer.selectAccesses at ha
  simp only [List.mem_append, or_assoc] at ha
  rcases ha with ha | ha | ha
  · rw [estimateCostAccesses_index ha]
    omega
  · obtain ⟨i, hi, ha⟩ := List.mem_flatMap.mp ha
    have hi := List.mem_range.mp (List.mem_reverse.mp hi)
    rw [estimateCostAccesses_index ha]
    omega
  · rw [List.mem_singleton.mp ha]
    exact hselected

lemma eventAccesses_index (hpos : 0 < lb.numOfEnds) (hstep : EndpointStep t lb e lb')
    (ha : a ∈ eventAccesses t lb e) : a.index < lb.numOfEnds := by
  cases e with
  | select =>
    rcases List.mem_append.mp ha with ha | ha
    · exact selectAccesses_index hpos ha
    · rw [List.mem_singleton.mp ha]
      exact (selectIndex_leastCost t hpos).lt
  | finish endPointIdx tsReqBeg now =>
    have hidx := hstep.2 endPointIdx tsReqBeg now rfl
    simp only [eventAccesses, LoadBalancer.finishAccesses, List.mem_cons, List.not_mem_nil,
      or_false, or_self] at ha
    rw [ha]
    exact hidx

/-- A run of the load balancer with the entries that it has touched. -/
def TableRun (t : LimitTables) (n : Nat) (es : List BalancerEvent)
    (s : LoadBalancer × List Access) : Prop :=
  Run (Observed (EndpointStep t) fun lb e accesses => accesses ++ eventAccesses t lb e)
    (initLoadBalancer n, []) es s

theorem tableRun_index {es : List BalancerEvent} {s : LoadBalancer × List Access} (hn : 0 < n)
    (h : TableRun t n es s) : s.1.numOfEnds = n ∧ ∀ a ∈ s.2, a.index < n := by
  refine Run.invariant (P := fun s => s.1.numOfEnds = n ∧ ∀ a ∈ s.2, a.index < n) ?_ h
    ⟨rfl, by simp⟩
  rintro ⟨lb, accesses⟩ e ⟨lb', accesses'⟩ ⟨hnum, hbefore⟩ ⟨hstep, haccesses⟩
  simp only at hnum hbefore hstep haccesses
  refine ⟨(numOfEnds_balancerStep hstep.1).trans hnum, ?_⟩
  intro a ha
  rw [haccesses] at ha
  rcases List.mem_append.mp ha with ha | ha
  · exact hbefore a ha
  · rw [← hnum]
    exact eventAccesses_index (by omega) hstep ha

/-- From the reply on, and in every run of selections and answers, every index is in range. -/
def TablesInRange (t : LimitTables) (reply : RangeReply) : Prop :=
  (∀ a ∈ consumerStart reply, a.InRange) ∧
    ∀ n, (initConsumer reply).2 = some n → ∀ es s, TableRun t n es s → ∀ a ∈ s.2, a.InRange

/-- If there are more keys than entries in one of the tables, the agent exits and has stored
nothing. -/
def RejectsOverflow (reply : RangeReply) : Prop :=
  (∃ table : Table, table.size < (etcdGet reply).2) →
    (initConsumer reply).2 = none ∧ ∀ table i, Access.store table i ∉ consumerStart reply

lemma three_le_size (table : Table) : 3 ≤ table.size := by
  cases table <;> decide

lemma inRange_of_index (h : a.index < n) (hn : n ≤ 3) : a.InRange :=
  Nat.lt_of_lt_of_le h (Nat.le_trans hn (three_le_size _))

lemma penaltySendLimit_mem_selectAccesses (t : LimitTables) (lb : LoadBalancer) :
    Access.load .penaltySendLimit (lb.numOfEnds - 1) ∈ lb.selectAccesses t := by
  simp [LoadBalancer.selectAccesses, LoadBalancer.estimateCostAccesses]

/-- A fourth endpoint is enough for an index out of range, at the first selection. -/
lemma not_tablesInRange (hinit : (initConsumer reply).2 = some n) (hn : 3 < n) :
    ¬ TablesInRange t reply := by
  intro h
  have hstep : EndpointStep t (initLoadBalancer n) .select
      ((initLoadBalancer n).selectEndpointTimeBased t).1 := ⟨BalancerStep.select, by simp⟩
  have hrun : TableRun t n [.select] (((initLoadBalancer n).selectEndpointTimeBased t).1,
      [] ++ eventAccesses t (initLoadBalancer n) .select) := Run.single ⟨hstep, rfl⟩
  have htouched : Access.load .penaltySendLimit (n - 1) ∈
      [] ++ eventAccesses t (initLoadBalancer n) .select := by
    rw [List.nil_append]
    exact List.mem_append_left _ (penaltySendLimit_mem_selectAccesses t (initLoadBalancer n))
  have hsize : n - 1 < 3 := h.2 n hinit _ _ hrun _ htouched
  omega

/-- The tables are safe, or protected, exactly as long as there are at most three keys. -/
theorem tables_safe_iff (t : LimitTables) (reply : RangeReply) :
    TablesInRange t reply ∧ RejectsOverflow reply ↔ (etcdGet reply).2 ≤ 3 := by
  constructor
  · rintro ⟨hrange, -⟩
    by_contra hmany
    exact not_tablesInRange (initConsumer_some_iff.mpr ⟨by omega, rfl⟩) (by omega) hrange
  · intro hfew
    refine ⟨⟨?_, ?_⟩, ?_⟩
    · exact fun a ha => inRange_of_index (consumerStart_index ha) hfew
    · intro n hinit es s hrun a ha
      obtain ⟨hn, hnum⟩ := initConsumer_some_iff.mp hinit
      exact inRange_of_index ((tableRun_index hn hrun).2 a ha) (by omega)
    · rintro ⟨table, htable⟩
      have hsize := three_le_size table
      omega

/-- The text of one object with a base64-coded key, whose last letter is given. -/
def keyObject (last : Char) : List UInt8 :=
  [123, 34] ++ keyName ++ [34, 58, 34] ++ ascii ['M', 'D', 'p', 'h', 'O', 'j', last, '='] ++
    [34, 125]

/-- The tokens of the object that begins at `start`. -/
def keyObjectToks (start : Int) : List JsmnTok :=
  [⟨.object, start, start + 18⟩, ⟨.string, start + 2, start + 5⟩,
    ⟨.string, start + 8, start + 16⟩]

/-- A reply with the keys `0:a:1` to `0:a:4`. -/
def fourKeysReply : RangeReply where
  ret := 0
  ptr := Mem.write (fun _ => 0) 0 ([123, 34] ++ ascii ['k', 'v', 's'] ++ [34, 58, 91] ++
    keyObject 'E' ++ [44] ++ keyObject 'I' ++ [44] ++ keyObject 'M' ++ [44] ++ keyObject 'Q' ++
    [93, 125])
  toks := [⟨.object, 0, 85⟩, ⟨.string, 2, 5⟩, ⟨.array, 7, 84⟩] ++ keyObjectToks 8 ++
    keyObjectToks 27 ++ keyObjectToks 46 ++ keyObjectToks 65

/-- A fourth provider is not handled. -/
theorem fourKeys_not_safe :
    ¬ ∀ (t : LimitTables) (reply : RangeReply), 1 ≤ (etcdGet reply).2 →
      TablesInRange t reply ∧ RejectsOverflow reply := by
  intro h
  have hfound : (etcdGet fourKeysReply).2 = 4 := by decide
  have hsafe := h ⟨fun _ => 0, fun _ => 0⟩ fourKeysReply (by omega)
  exact not_tablesInRange (initConsumer_some_iff.mpr ⟨by decide, hfound.symm⟩) (by decide) hsafe.1

end MeshAgent.Proofs
