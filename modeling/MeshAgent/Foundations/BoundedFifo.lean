import Mathlib.Logic.Function.Basic
import MeshAgent.Foundations.Runs

/-!
# Bounded first-in-first-out queues

The queue itself is a list of at most `cap` values. `ringRead` is the list that `count`
cells of a ring hold.
-/

namespace MeshAgent.Foundations

variable {α : Type*}

inductive FifoOp (α : Type*)
  | accept (a : α)
  | reject (a : α)
  | take (a : α)

inductive FifoStep (cap : Nat) : List α → FifoOp α → List α → Prop
  | accept {q : List α} {a : α} (room : q.length < cap) : FifoStep cap q (.accept a) (q ++ [a])
  | reject {q : List α} {a : α} (full : q.length = cap) : FifoStep cap q (.reject a) q
  | take {q : List α} {a : α} : FifoStep cap (a :: q) (.take a) q

def FifoOp.accepted : FifoOp α → Option α
  | .accept a => some a
  | _ => none

def FifoOp.taken : FifoOp α → Option α
  | .take a => some a
  | _ => none

/-- What was there and what was accepted is what was taken and what is there, in this
order. -/
theorem fifo_conservation {cap : Nat} {q q' : List α} {ops : List (FifoOp α)}
    (h : Run (FifoStep cap) q ops q') :
    q ++ ops.filterMap FifoOp.accepted = ops.filterMap FifoOp.taken ++ q' := by
  induction h with
  | nil => simp
  | snoc _ hlast ih =>
    rw [List.filterMap_append, List.filterMap_append, ← List.append_assoc, ih]
    cases hlast with
    | accept _ => simp [FifoOp.accepted, FifoOp.taken]
    | reject _ =>
      change _ ++ [] = _ ++ [] ++ _
      rw [List.append_nil, List.append_nil]
    | take => simp [FifoOp.accepted, FifoOp.taken]

def ringRead (cells : Nat → α) (cap head : Nat) : Nat → List α
  | 0 => []
  | count + 1 => cells head :: ringRead cells cap ((head + 1) % cap) count

lemma ringRead_update (cells : Nat → α) {cap head count : Nat} (hhead : head < cap)
    (hcount : count < cap) (a : α) :
    ringRead (Function.update cells ((head + count) % cap) a) cap head (count + 1) =
      ringRead cells cap head count ++ [a] := by
  induction count generalizing head with
  | zero =>
    unfold ringRead
    rw [Nat.add_zero, Nat.mod_eq_of_lt hhead, Function.update_self]
    rfl
  | succ count ih =>
    have hnext : (head + 1) % cap < cap := Nat.mod_lt _ (by omega)
    have hcell : ((head + 1) % cap + count) % cap = (head + (count + 1)) % cap := by
      rw [Nat.mod_add_mod]
      congr 1
      omega
    have hne : head ≠ (head + (count + 1)) % cap := by
      by_cases hwrap : head + (count + 1) < cap
      · rw [Nat.mod_eq_of_lt hwrap]
        omega
      · rw [Nat.mod_eq_sub_mod (by omega), Nat.mod_eq_of_lt (by omega)]
        omega
    have htail := ih hnext (by omega)
    rw [hcell] at htail
    rw [ringRead, Function.update_of_ne hne, htail]
    rfl

/-- The cells from `head` up to `tail` hold `q`; the tail is `ahead` when it has gone round
once more often than the head. -/
structure RingHolds (cap : Nat) (cells : Nat → α) (head tail : Nat) (ahead : Bool)
    (q : List α) : Prop where
  head_lt : head < cap
  tail_lt : tail < cap
  count : (ahead = false ∧ tail = head + q.length) ∨
    (ahead = true ∧ tail ≤ head ∧ tail + cap = head + q.length)
  contents : ringRead cells cap head q.length = q

namespace RingHolds

variable {cap head tail : Nat} {cells : Nat → α} {ahead : Bool} {q : List α}

lemma empty (hcap : 0 < cap) (cells : Nat → α) : RingHolds cap cells 0 0 false [] :=
  ⟨hcap, hcap, Or.inl ⟨rfl, rfl⟩, rfl⟩

lemma length_le (h : RingHolds cap cells head tail ahead q) : q.length ≤ cap := by
  have htail := h.tail_lt
  rcases h.count with ⟨-, hcount⟩ | ⟨-, hle, hcount⟩
  · omega
  · omega

lemma full_iff (h : RingHolds cap cells head tail ahead q) :
    head = tail ∧ ahead = true ↔ q.length = cap := by
  have hhead := h.head_lt
  have htail := h.tail_lt
  rcases h.count with ⟨rfl, hcount⟩ | ⟨rfl, hle, hcount⟩
  · simp only [Bool.false_eq_true, and_false, false_iff]
    omega
  · simp only [and_true]
    omega

lemma empty_iff (h : RingHolds cap cells head tail ahead q) :
    head = tail ∧ ahead = false ↔ q = [] := by
  have hhead := h.head_lt
  rw [← List.length_eq_zero_iff]
  rcases h.count with ⟨rfl, hcount⟩ | ⟨rfl, hle, hcount⟩
  · simp only [and_true]
    omega
  · simp only [Bool.true_eq_false, and_false, false_iff]
    omega

lemma tail_eq (h : RingHolds cap cells head tail ahead q) : tail = (head + q.length) % cap := by
  have htail := h.tail_lt
  rcases h.count with ⟨-, hcount⟩ | ⟨-, -, hcount⟩
  · rw [← hcount, Nat.mod_eq_of_lt htail]
  · rw [← hcount, Nat.add_mod_right, Nat.mod_eq_of_lt htail]

lemma accept (h : RingHolds cap cells head tail ahead q) (hroom : q.length < cap) (a : α) :
    RingHolds cap (Function.update cells tail a) head (if tail + 1 = cap then 0 else tail + 1)
      (if tail + 1 = cap then true else ahead) (q ++ [a]) := by
  have hhead := h.head_lt
  have htail := h.tail_lt
  have hcells := ringRead_update cells hhead hroom a
  rw [← h.tail_eq, h.contents] at hcells
  have hlen : (q ++ [a]).length = q.length + 1 := by simp
  by_cases hwrap : tail + 1 = cap
  · rw [if_pos hwrap, if_pos hwrap]
    refine ⟨hhead, by omega, Or.inr ⟨rfl, Nat.zero_le _, ?_⟩, hlen ▸ hcells⟩
    rcases h.count with ⟨-, hcount⟩ | ⟨-, hle, hcount⟩
    · omega
    · omega
  · rw [if_neg hwrap, if_neg hwrap]
    refine ⟨hhead, by omega, ?_, hlen ▸ hcells⟩
    rcases h.count with ⟨hahead, hcount⟩ | ⟨hahead, hle, hcount⟩
    · exact Or.inl ⟨hahead, by omega⟩
    · exact Or.inr ⟨hahead, by omega, by omega⟩

lemma take {a : α} (h : RingHolds cap cells head tail ahead (a :: q)) :
    cells head = a ∧
      RingHolds cap cells (if head + 1 = cap then 0 else head + 1) tail
        (if head + 1 = cap then false else ahead) q := by
  have hhead := h.head_lt
  have htail := h.tail_lt
  have hcount := h.count
  have hlen := h.length_le
  have hcells := h.contents
  rw [List.length_cons, ringRead, List.cons.injEq] at hcells
  rw [List.length_cons] at hcount hlen
  by_cases hwrap : head + 1 = cap
  · rw [hwrap, Nat.mod_self] at hcells
    rw [if_pos hwrap, if_pos hwrap]
    exact ⟨hcells.1, by omega, htail, Or.inl ⟨rfl, by omega⟩, hcells.2⟩
  · rw [Nat.mod_eq_of_lt (by omega)] at hcells
    rw [if_neg hwrap, if_neg hwrap]
    refine ⟨hcells.1, by omega, htail, ?_, hcells.2⟩
    rcases hcount with ⟨hahead, hcount⟩ | ⟨hahead, hle, hcount⟩
    · exact Or.inl ⟨hahead, by omega⟩
    · exact Or.inr ⟨hahead, by omega, by omega⟩

end RingHolds

end MeshAgent.Foundations
