import MeshAgent.Foundations.BoundedFifo
import MeshAgent.Model.BlockQueue

/-!
# The request queue is a bounded queue

`tail_ahead` tells whether the tail has gone round once more often than the head; with it
head and tail determine how many requests are stored.
-/

namespace MeshAgent.Proofs
open MeshAgent.Foundations MeshAgent.Model MeshAgent.Model.BlockQueue

variable {α : Type*} {n : Nat} {bq bq' : BlockQueue α} {q : List α}

/-- The cells from the head on hold `q`. -/
structure Represents (n : Nat) (bq : BlockQueue α) (q : List α) : Prop where
  maxSize : bq.maxSize = n
  head : bq.head < n
  tail : bq.tail < n
  count : (bq.tailAhead = 0 ∧ bq.tail = bq.head + q.length) ∨
    (bq.tailAhead = 1 ∧ bq.tail ≤ bq.head ∧ bq.tail + n = bq.head + q.length)
  contents : ringRead bq.httpReqArray n bq.head q.length = q

namespace Represents

lemma ahead (h : Represents n bq q) : bq.tailAhead = 0 ∨ bq.tailAhead = 1 := by
  rcases h.count with ⟨hahead, -⟩ | ⟨hahead, -, -⟩
  · exact Or.inl hahead
  · exact Or.inr hahead

lemma ring (h : Represents n bq q) :
    RingHolds n bq.httpReqArray bq.head bq.tail (decide (bq.tailAhead = 1)) q := by
  refine ⟨h.head, h.tail, ?_, h.contents⟩
  rcases h.count with ⟨hahead, hcount⟩ | ⟨hahead, hle, hcount⟩
  · exact Or.inl ⟨by rw [hahead]; rfl, hcount⟩
  · exact Or.inr ⟨by rw [hahead]; rfl, hle, hcount⟩

lemma of_ring {ahead : Bool} (hmax : bq.maxSize = n)
    (hahead : bq.tailAhead = if ahead then 1 else 0)
    (h : RingHolds n bq.httpReqArray bq.head bq.tail ahead q) : Represents n bq q := by
  refine ⟨hmax, h.head_lt, h.tail_lt, ?_, h.contents⟩
  rcases h.count with ⟨rfl, hcount⟩ | ⟨rfl, hle, hcount⟩
  · exact Or.inl ⟨hahead, hcount⟩
  · exact Or.inr ⟨hahead, hle, hcount⟩

lemma init (hn : 0 < n) (fresh : Nat → α) : Represents n (initBlockQueue n fresh) [] :=
  of_ring rfl rfl (RingHolds.empty hn fresh)

lemma testFull_iff (h : Represents n bq q) : bq.testFull = true ↔ q.length = n := by
  unfold testFull
  rw [decide_eq_true_iff, ← h.ring.full_iff, decide_eq_true_iff]

lemma testEmpty_iff (h : Represents n bq q) : bq.testEmpty = true ↔ q = [] := by
  have hahead := h.ahead
  unfold testEmpty
  rw [decide_eq_true_iff, ← h.ring.empty_iff, decide_eq_false_iff_not]
  omega

lemma push_full (h : Represents n bq q) (hfull : q.length = n) (httpReq : α) :
    bq.bqPush httpReq = some (1, bq) := by
  unfold bqPush
  rw [if_pos (h.testFull_iff.mpr hfull)]

lemma push_room (h : Represents n bq q) (hroom : q.length < n) (httpReq : α) :
    ∃ bq', bq.bqPush httpReq = some (0, bq') ∧ Represents n bq' (q ++ [httpReq]) := by
  have htail := h.tail
  have hmax := h.maxSize
  have hahead := h.ahead
  have hring := h.ring.accept hroom httpReq
  have hnot : ¬ bq.testFull = true := fun hfull => by
    have := h.testFull_iff.mp hfull
    omega
  unfold bqPush
  rw [if_neg hnot, if_neg (by omega)]
  by_cases hwrap : bq.tail + 1 = bq.maxSize
  · rw [← hmax, if_pos hwrap, if_pos hwrap, hmax] at hring
    simp only [if_pos hwrap]
    exact ⟨_, rfl, of_ring hmax rfl hring⟩
  · rw [← hmax, if_neg hwrap, if_neg hwrap, hmax] at hring
    simp only [if_neg hwrap]
    refine ⟨_, rfl, of_ring hmax ?_ hring⟩
    rcases hahead with hahead | hahead
    · simp [hahead]
    · simp [hahead]

lemma pull_empty (h : Represents n bq q) (hempty : q = []) : bq.bqPull = some .blocked := by
  unfold bqPull
  rw [if_pos (h.testEmpty_iff.mpr hempty)]

lemma pull_cons {a : α} (h : Represents n bq (a :: q)) :
    ∃ bq', bq.bqPull = some (.pulled a bq') ∧ Represents n bq' q := by
  have hhead := h.head
  have hmax := h.maxSize
  have hahead := h.ahead
  obtain ⟨hfirst, hring⟩ := h.ring.take
  have hnot : ¬ bq.testEmpty = true := fun hempty => by
    have := h.testEmpty_iff.mp hempty
    simp at this
  unfold bqPull
  rw [if_neg hnot, if_neg (by omega), hfirst]
  by_cases hwrap : bq.head + 1 = bq.maxSize
  · rw [← hmax, if_pos hwrap, if_pos hwrap, hmax] at hring
    simp only [if_pos hwrap]
    exact ⟨_, rfl, of_ring hmax rfl hring⟩
  · rw [← hmax, if_neg hwrap, if_neg hwrap, hmax] at hring
    simp only [if_neg hwrap]
    refine ⟨_, rfl, of_ring hmax ?_ hring⟩
    rcases hahead with hahead | hahead
    · simp [hahead]
    · simp [hahead]

end Represents

/-- What a call means for the stored requests. -/
def fifoOp : Call α → FifoOp α
  | .push httpReq result => if result = 0 then .accept httpReq else .reject httpReq
  | .pull req => .take req

lemma step_fifo {call : Call α} (h : Represents n bq q) (hstep : Step bq call bq') :
    ∃ q', FifoStep n q (fifoOp call) q' ∧ Represents n bq' q' := by
  cases hstep with
  | @push _ httpReq result hpush =>
    by_cases hfull : q.length = n
    · rw [h.push_full hfull, Option.some.injEq, Prod.mk.injEq] at hpush
      obtain ⟨rfl, rfl⟩ := hpush
      exact ⟨q, FifoStep.reject hfull, h⟩
    · have hroom : q.length < n := Nat.lt_of_le_of_ne h.ring.length_le hfull
      obtain ⟨bq₁, hret, hnext⟩ := h.push_room hroom httpReq
      rw [hret, Option.some.injEq, Prod.mk.injEq] at hpush
      obtain ⟨rfl, rfl⟩ := hpush
      exact ⟨q ++ [httpReq], FifoStep.accept hroom, hnext⟩
  | @pull _ req hpull =>
    cases q with
    | nil =>
      rw [h.pull_empty rfl] at hpull
      simp at hpull
    | cons a q =>
      obtain ⟨bq₁, hret, hnext⟩ := h.pull_cons
      rw [hret, Option.some.injEq, Pull.pulled.injEq] at hpull
      obtain ⟨rfl, rfl⟩ := hpull
      exact ⟨q, FifoStep.take, hnext⟩

/-- The requests whose push returned 0, in this order. -/
def accepted (calls : List (Call α)) : List α :=
  calls.filterMap fun call => (fifoOp call).accepted

/-- The requests that were pulled, in this order. -/
def pulled (calls : List (Call α)) : List α :=
  calls.filterMap fun call => (fifoOp call).taken

lemma run_represents (hn : 0 < n) {fresh : Nat → α} {calls : List (Call α)}
    (h : Run Step (initBlockQueue n fresh) calls bq) :
    ∃ q, accepted calls = pulled calls ++ q ∧ Represents n bq q := by
  obtain ⟨q, hrun, hq⟩ := h.simulate (fun _ _ _ _ hrep hstep => step_fifo hrep hstep)
    (Represents.init hn fresh)
  refine ⟨q, ?_, hq⟩
  have hall := fifo_conservation hrun
  rw [List.filterMap_map, List.filterMap_map] at hall
  exact hall

/-- Whatever the threads do, the pulled requests are the first of the accepted ones; a push
is refused, without effect, exactly when `n` requests are stored, a pull waits exactly when
none is, and no call leaves the array. -/
theorem blockQueue_fifo (n : Nat) (hn : 0 < n) (fresh : Nat → α) (calls : List (Call α))
    (bq : BlockQueue α) (h : Run Step (initBlockQueue n fresh) calls bq) :
    pulled calls <+: accepted calls ∧
    (∀ httpReq, ∃ result bq', bq.bqPush httpReq = some (result, bq') ∧
      (result = 0 ∨ result = 1) ∧
      (result = 1 ↔ (accepted calls).length = (pulled calls).length + n) ∧
      (result = 1 → bq' = bq)) ∧
    ∃ pull, bq.bqPull = some pull ∧
      (pull = .blocked ↔ (accepted calls).length = (pulled calls).length) := by
  obtain ⟨q, hall, hq⟩ := run_represents hn h
  rw [hall, List.length_append]
  refine ⟨List.prefix_append _ _, ?_, ?_⟩
  · intro httpReq
    by_cases hfull : q.length = n
    · exact ⟨1, bq, hq.push_full hfull httpReq, Or.inr rfl, by omega, fun _ => rfl⟩
    · have hroom : q.length < n := Nat.lt_of_le_of_ne hq.ring.length_le hfull
      obtain ⟨bq', hret, -⟩ := hq.push_room hroom httpReq
      exact ⟨0, bq', hret, Or.inl rfl, by omega, by omega⟩
  · cases q with
    | nil => exact ⟨.blocked, hq.pull_empty rfl, by simp⟩
    | cons a q =>
      obtain ⟨bq', hret, -⟩ := hq.pull_cons
      exact ⟨.pulled a bq', hret, by simp⟩

/-- Two pushes, a refused third one and a pull. -/
theorem blockQueue_fifo_two :
    ∃ bq, Run Step (initBlockQueue 2 (fun _ => 0))
        [.push 7 0, .push 8 0, .push 9 1, .pull 7] bq ∧
      pulled [Call.push 7 0, .push 8 0, .push 9 1, .pull 7] <+:
        accepted [Call.push 7 0, .push 8 0, .push 9 1, .pull 7] := by
  have hrun : Run Step (initBlockQueue 2 (fun _ => 0)) [.push 7 0, .push 8 0, .push 9 1, .pull 7]
      _ := ((((Run.nil _).snoc (.push rfl)).snoc (.push rfl)).snoc (.push rfl)).snoc (.pull rfl)
  exact ⟨_, hrun, (blockQueue_fifo 2 (by decide) _ _ _ hrun).1⟩

end MeshAgent.Proofs
