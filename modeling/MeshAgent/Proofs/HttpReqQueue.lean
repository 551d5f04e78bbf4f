import MeshAgent.Foundations.BoundedFifo
import MeshAgent.Model.HttpReqQueue

/-!
# The request ring wraps one cell late

Head and tail wrap when they exceed the capacity, so the ring has one cell more than the
array.
-/

namespace MeshAgent.Proofs
open MeshAgent.Foundations MeshAgent.Model MeshAgent.Model.HttpReqQueue

variable {α : Type*} {queue : HttpReqQueue α} {q : List α}

/-- What a queue of at most `c` elements returns when it stores `q`. -/
def fifoReturns (c : Nat) : List α → List (Call α) → List (Returned α)
  | _, [] => []
  | q, .push httpReq :: calls =>
    if q.length = c then .pushed 1 :: fifoReturns c q calls
    else .pushed 0 :: fifoReturns c (q ++ [httpReq]) calls
  | q, .pull :: calls => .pulled q.head? :: fifoReturns c q.tail calls

/-- No call leaves the array, and all return what a queue of at most `c` elements returns. -/
def QueuesAsFifo (c : Nat) (fresh : Nat → α) (calls : List (Call α)) : Prop :=
  (initHttpReqQueueT c fresh).returns calls = some (fifoReturns c [] calls)

def pushes : List (Call α) → Nat
  | [] => 0
  | .push _ :: calls => pushes calls + 1
  | .pull :: calls => pushes calls

/-- The cells of the ring from the head on hold `q`. -/
structure QueueHolds (queue : HttpReqQueue α) (q : List α) : Prop where
  generation : queue.generation ≤ 1
  ring : RingHolds (queue.capacity + 1) queue.buffer queue.head queue.tail
    (decide (queue.generation = 1)) q

def afterPush (queue : HttpReqQueue α) (httpReq : α) : HttpReqQueue α :=
  { queue with
    buffer := Function.update queue.buffer queue.tail httpReq
    tail := if queue.tail + 1 = queue.capacity + 1 then 0 else queue.tail + 1
    generation := if queue.tail + 1 = queue.capacity + 1 then 1 else queue.generation }

def afterPull (queue : HttpReqQueue α) : HttpReqQueue α :=
  { queue with
    head := if queue.head + 1 = queue.capacity + 1 then 0 else queue.head + 1
    generation := if queue.head + 1 = queue.capacity + 1 then 0 else queue.generation }

namespace QueueHolds

lemma init (queue : HttpReqQueue α) (hhead : queue.head = 0) (htail : queue.tail = 0)
    (hgen : queue.generation = 0) : QueueHolds queue [] := by
  refine ⟨by omega, ?_⟩
  rw [hhead, htail, hgen]
  exact RingHolds.empty (Nat.succ_pos _) _

lemma testFull_iff (h : QueueHolds queue q) :
    queue.httpReqQueueTestFull = true ↔ q.length = queue.capacity + 1 := by
  unfold httpReqQueueTestFull
  rw [decide_eq_true_iff, ← h.ring.full_iff, decide_eq_true_iff, and_comm]

lemma testEmpty_iff (h : QueueHolds queue q) :
    queue.httpReqQueueTestEmpty = true ↔ q = [] := by
  have hgen := h.generation
  unfold httpReqQueueTestEmpty
  rw [decide_eq_true_iff, ← h.ring.empty_iff, decide_eq_false_iff_not, and_comm]
  omega

lemma push_full (h : QueueHolds queue q) (hfull : q.length = queue.capacity + 1) (httpReq : α) :
    queue.httpReqQueuePush httpReq = some (1, queue) := by
  unfold httpReqQueuePush
  rw [if_pos (h.testFull_iff.mpr hfull)]

lemma push_room (h : QueueHolds queue q) (hroom : q.length < queue.capacity + 1)
    (hcell : queue.tail < queue.allocated) (httpReq : α) :
    queue.httpReqQueuePush httpReq = some (0, afterPush queue httpReq) ∧
      QueueHolds (afterPush queue httpReq) (q ++ [httpReq]) := by
  have htail := h.ring.tail_lt
  have hgen := h.generation
  have hnot : ¬ queue.httpReqQueueTestFull = true := fun hfull => by
    have := h.testFull_iff.mp hfull
    omega
  have hring := h.ring.accept hroom httpReq
  constructor
  · unfold httpReqQueuePush afterPush
    rw [if_neg hnot, if_neg (by omega)]
    by_cases hwrap : queue.tail + 1 > queue.capacity
    · have hlast : queue.tail + 1 = queue.capacity + 1 := by omega
      simp only [if_pos hwrap, if_pos hlast]
    · have hnext : ¬ queue.tail + 1 = queue.capacity + 1 := by omega
      simp only [if_neg hwrap, if_neg hnext]
  · unfold afterPush
    constructor
    · split
      · exact Nat.le_refl 1
      · exact hgen
    · split
      · next hlast => rwa [if_pos hlast, if_pos hlast] at hring
      · next hnext => rwa [if_neg hnext, if_neg hnext] at hring

lemma push_outside (h : QueueHolds queue q) (hroom : q.length < queue.capacity + 1)
    (hcell : queue.allocated ≤ queue.tail) (httpReq : α) :
    queue.httpReqQueuePush httpReq = none := by
  have hnot : ¬ queue.httpReqQueueTestFull = true := fun hfull => by
    have := h.testFull_iff.mp hfull
    omega
  unfold httpReqQueuePush
  rw [if_neg hnot, if_pos hcell]

lemma pull_empty (h : QueueHolds queue []) : queue.httpReqQueuePull = some (none, queue) := by
  unfold httpReqQueuePull
  rw [if_pos (h.testEmpty_iff.mpr rfl)]

lemma pull_cons {a : α} (h : QueueHolds queue (a :: q)) (hcell : queue.head < queue.allocated) :
    queue.httpReqQueuePull = some (some a, afterPull queue) ∧
      QueueHolds (afterPull queue) q := by
  have hhead := h.ring.head_lt
  have hgen := h.generation
  have hnot : ¬ queue.httpReqQueueTestEmpty = true := fun hempty => by
    have := h.testEmpty_iff.mp hempty
    simp at this
  obtain ⟨hfirst, hring⟩ := h.ring.take
  constructor
  · unfold httpReqQueuePull afterPull
    rw [if_neg hnot, if_neg (by omega), hfirst]
    by_cases hwrap : queue.head + 1 > queue.capacity
    · have hlast : queue.head + 1 = queue.capacity + 1 := by omega
      simp only [if_pos hwrap, if_pos hlast]
    · have hnext : ¬ queue.head + 1 = queue.capacity + 1 := by omega
      simp only [if_neg hwrap, if_neg hnext]
  · unfold afterPull
    constructor
    · split
      · exact Nat.zero_le 1
      · exact hgen
    · split
      · next hlast => rwa [if_pos hlast, if_pos hlast] at hring
      · next hnext => rwa [if_neg hnext, if_neg hnext] at hring

end QueueHolds

lemma returns_cons {call : Call α} {returned : Returned α} {next : HttpReqQueue α}
    (h : queue.call call = some (returned, next)) (calls : List (Call α)) :
    queue.returns (call :: calls) = (next.returns calls).map (returned :: ·) := by
  rw [returns, h]
  rfl

lemma call_push {httpReq : α} {result : Int} {next : HttpReqQueue α}
    (h : queue.httpReqQueuePush httpReq = some (result, next)) :
    queue.call (.push httpReq) = some (.pushed result, next) := by
  rw [HttpReqQueue.call, h]
  rfl

lemma call_pull {req : Option α} {next : HttpReqQueue α}
    (h : queue.httpReqQueuePull = some (req, next)) :
    queue.call .pull = some (.pulled req, next) := by
  rw [HttpReqQueue.call, h]
  rfl

/-- Until the tail wraps it is the number of pushes, and one push too many leaves the
array. -/
lemma returns_first_round {calls : List (Call α)} (h : QueueHolds queue q)
    (hgen : queue.generation = 0) (hcells : queue.allocated = queue.capacity) :
    queue.returns calls =
      if queue.tail + pushes calls ≤ queue.capacity then
        some (fifoReturns queue.capacity q calls)
      else none := by
  induction calls generalizing queue q with
  | nil =>
    have htail := h.ring.tail_lt
    rw [pushes, if_pos (by omega)]
    rfl
  | cons call calls ih =>
    have htail := h.ring.tail_lt
    have hlen : queue.tail = queue.head + q.length := by
      rcases h.ring.count with ⟨-, hcount⟩ | ⟨hahead, -, -⟩
      · exact hcount
      · simp [hgen] at hahead
    cases call with
    | push httpReq =>
      rw [pushes]
      by_cases hcell : queue.tail < queue.allocated
      · obtain ⟨hpush, hnext⟩ := h.push_room (by omega) hcell httpReq
        have hwrap : ¬ queue.tail + 1 = queue.capacity + 1 := by omega
        have htail' : (afterPush queue httpReq).tail = queue.tail + 1 := if_neg hwrap
        have hgen' : (afterPush queue httpReq).generation = 0 := by
          rw [← hgen]
          exact if_neg hwrap
        have hcap' : (afterPush queue httpReq).capacity = queue.capacity := rfl
        have hroom : ¬ q.length = queue.capacity := by omega
        rw [returns_cons (call_push hpush), ih hnext hgen' hcells, htail', hcap',
          fifoReturns, if_neg hroom, Nat.add_assoc, Nat.add_comm 1]
        split
        · rfl
        · rfl
      · have hout := h.push_outside (by omega) (by omega) httpReq
        have hmany : ¬ queue.tail + (pushes calls + 1) ≤ queue.capacity := by omega
        rw [if_neg hmany, returns, HttpReqQueue.call, hout]
        rfl
    | pull =>
      rw [pushes, fifoReturns]
      cases q with
      | nil =>
        rw [returns_cons (call_pull h.pull_empty), ih h hgen hcells]
        split
        · rfl
        · rfl
      | cons a q =>
        rw [List.length_cons] at hlen
        obtain ⟨hpull, hnext⟩ := h.pull_cons (by omega)
        have hwrap : ¬ queue.head + 1 = queue.capacity + 1 := by omega
        have hgen' : (afterPull queue).generation = 0 := by
          rw [← hgen]
          exact if_neg hwrap
        have hcap' : (afterPull queue).capacity = queue.capacity := rfl
        have htail' : (afterPull queue).tail = queue.tail := rfl
        rw [returns_cons (call_pull hpull), ih hnext hgen' hcells, htail', hcap']
        split
        · rfl
        · rfl

/-- The sequences of calls on which the queue is a queue of its capacity: those that push at
most so many requests, pulled or not. -/
theorem queuesAsFifo_iff (c : Nat) (fresh : Nat → α) (calls : List (Call α)) :
    QueuesAsFifo c fresh calls ↔ pushes calls ≤ c := by
  have hinit : QueueHolds (initHttpReqQueueT c fresh) [] := QueueHolds.init _ rfl rfl rfl
  have hcap : (initHttpReqQueueT c fresh).capacity = c := rfl
  have htail : (initHttpReqQueueT c fresh).tail = 0 := rfl
  unfold QueuesAsFifo
  rw [returns_first_round hinit rfl rfl, hcap, htail, Nat.zero_add]
  constructor
  · intro h
    by_contra hmany
    rw [if_neg hmany] at h
    simp at h
  · intro h
    rw [if_pos h]

/-- Of two pushes into a queue of one, the second is not refused: it leaves the array. -/
theorem second_push_leaves_array :
    ¬ ∀ (c : Nat) (fresh : Nat → Nat) (calls : List (Call Nat)), 1 ≤ c →
      QueuesAsFifo c fresh calls := by
  intro h
  have hfifo := h 1 (fun _ => 0) [.push 7, .push 8] (Nat.le_refl 1)
  have hnone : (initHttpReqQueueT 1 (fun _ => 0)).returns [.push 7, .push 8] = none := rfl
  rw [QueuesAsFifo, hnone] at hfifo
  simp at hfifo

/-- With one more cell the code is a queue, of one more than its capacity, for ever. -/
theorem returns_one_more_cell (c : Nat) (fresh : Nat → α) (calls : List (Call α)) :
    { initHttpReqQueueT c fresh with allocated := c + 1 }.returns calls =
      some (fifoReturns (c + 1) [] calls) := by
  have hrun : ∀ (queue : HttpReqQueue α) (q : List α), QueueHolds queue q →
      queue.allocated = queue.capacity + 1 →
      queue.returns calls = some (fifoReturns (queue.capacity + 1) q calls) := by
    induction calls with
    | nil => exact fun _ _ _ _ => rfl
    | cons call calls ih =>
      intro queue q h hcells
      have hhead := h.ring.head_lt
      have htail := h.ring.tail_lt
      cases call with
      | push httpReq =>
        rw [fifoReturns]
        by_cases hfull : q.length = queue.capacity + 1
        · rw [returns_cons (call_push (h.push_full hfull httpReq)), ih queue q h hcells,
            if_pos hfull]
          rfl
        · have hroom := Nat.lt_of_le_of_ne h.ring.length_le hfull
          obtain ⟨hpush, hnext⟩ := h.push_room hroom (by omega) httpReq
          rw [returns_cons (call_push hpush), ih _ _ hnext hcells, if_neg hfull]
          rfl
      | pull =>
        rw [fifoReturns]
        cases q with
        | nil =>
          rw [returns_cons (call_pull h.pull_empty), ih queue [] h hcells]
          rfl
        | cons a q =>
          obtain ⟨hpull, hnext⟩ := h.pull_cons (by omega)
          rw [returns_cons (call_pull hpull), ih _ _ hnext hcells]
          rfl
  exact hrun _ [] (QueueHolds.init _ rfl rfl rfl) rfl

end MeshAgent.Proofs
