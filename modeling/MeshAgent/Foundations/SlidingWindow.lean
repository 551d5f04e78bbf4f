import MeshAgent.Foundations.BoundedFifo
import Mathlib.Algebra.BigOperators.Group.Finset.Basic
import Mathlib.Data.List.DropRight
import Mathlib.Data.List.Rotate

/-!
# Sliding windows

A ring of `n` cells that is always full: a push takes the oldest value out and puts the new
one in its place. The sum of the values is kept up to date by one subtraction and one
addition.
-/

namespace MeshAgent.Foundations

variable {α : Type*}

lemma ringRead_eq_map (cells : Nat → α) {cap head : Nat} (hhead : head < cap) (count : Nat) :
    ringRead cells cap head count =
      (List.range count).map fun k => cells ((head + k) % cap) := by
  induction count generalizing head with
  | zero => rfl
  | succ count ih =>
    have hnext : (head + 1) % cap < cap := Nat.mod_lt _ (by omega)
    rw [ringRead, ih hnext, List.range_succ_eq_map, List.map_cons, List.map_map]
    congr 1
    · rw [Nat.add_zero, Nat.mod_eq_of_lt hhead]
    · apply List.map_congr_left
      intro k _
      rw [Function.comp_apply, Nat.mod_add_mod, Nat.add_assoc, Nat.add_comm 1 k]

lemma ringRead_perm (cells : Nat → α) {n head : Nat} (hhead : head < n) :
    (ringRead cells n head n).Perm ((List.range n).map cells) := by
  have hrotate : ringRead cells n head n = ((List.range n).map cells).rotate head := by
    rw [ringRead_eq_map cells hhead]
    apply List.ext_getElem
    · simp
    · intro k _ _
      simp [List.getElem_rotate, Nat.add_comm]
  rw [hrotate]
  exact List.rotate_perm _ _

lemma rtake_append_singleton {l : List α} {n : Nat} (hn : 0 < n) (h : n ≤ l.length) (a : α) :
    (l ++ [a]).rtake n = (l.rtake n).tail ++ [a] := by
  obtain ⟨m, rfl⟩ : ∃ m, n = m + 1 := ⟨n - 1, by omega⟩
  rw [List.rtake_concat_succ, List.rtake, List.rtake, List.tail_drop]
  congr 2
  omega

/-- The ring is full, with the oldest value at `head` and the newest at `tail`. It holds the
last `n` of the values pushed so far, and `sum` is their sum. -/
structure SlidingWindow [AddCommGroup α] (n : Nat) (cells : Nat → α) (head tail : Nat) (sum : α)
    (pushed : List α) : Prop where
  head_lt : head < n
  tail_lt : tail < n
  head_eq : head = (tail + 1) % n
  full : n ≤ pushed.length
  read_eq : ringRead cells n head n = pushed.rtake n
  sum_eq : sum = (pushed.rtake n).sum

namespace SlidingWindow

variable [AddCommGroup α] {n head tail : Nat} {cells : Nat → α} {sum : α} {pushed : List α}

lemma replicate (hn : 0 < n) (a : α) :
    SlidingWindow n (fun _ => a) 0 (n - 1) (n • a) (List.replicate n a) := by
  have hrtake : (List.replicate n a).rtake n = List.replicate n a := by
    rw [List.rtake, List.length_replicate, Nat.sub_self, List.drop_zero]
  refine ⟨hn, by omega, ?_, ?_, ?_, ?_⟩
  · rw [Nat.sub_add_cancel hn, Nat.mod_self]
  · rw [List.length_replicate]
  · rw [ringRead_eq_map _ hn, List.map_const', List.length_range, hrtake]
  · rw [hrtake, List.sum_replicate]

lemma rtake_eq_cons (h : SlidingWindow n cells head tail sum pushed) :
    pushed.rtake n = cells head :: ringRead cells n ((head + 1) % n) (n - 1) := by
  obtain ⟨m, rfl⟩ : ∃ m, n = m + 1 := ⟨n - 1, by have := h.head_lt; omega⟩
  rw [← h.read_eq, ringRead, Nat.add_sub_cancel]

lemma sum_sub_oldest (h : SlidingWindow n cells head tail sum pushed) :
    sum - cells head = (pushed.rtake n).tail.sum := by
  rw [h.sum_eq, h.rtake_eq_cons, List.tail_cons, List.sum_cons, add_sub_cancel_left]

theorem push (h : SlidingWindow n cells head tail sum pushed) (a : α) :
    SlidingWindow n (Function.update cells ((tail + 1) % n) a) ((head + 1) % n) ((tail + 1) % n)
      (sum - cells head + a) (pushed ++ [a]) := by
  have hlt := h.head_lt
  have hpos : 0 < n := by omega
  have hnext : (head + 1) % n < n := Nat.mod_lt _ hpos
  have hrtake := rtake_append_singleton hpos h.full a
  refine ⟨hnext, Nat.mod_lt _ hpos, by rw [← h.head_eq], ?_, ?_, ?_⟩
  · have := h.full
    rw [List.length_append]
    omega
  · -- The new value goes to the cell behind the others, which is the old head.
    have hlast : ((head + 1) % n + (n - 1)) % n = head := by
      rw [Nat.mod_add_mod, Nat.add_assoc, Nat.add_sub_cancel' hpos, Nat.add_mod_right,
        Nat.mod_eq_of_lt hlt]
    have hpushed := ringRead_update cells hnext (Nat.sub_lt hpos Nat.one_pos) a
    rw [hlast, Nat.sub_add_cancel hpos] at hpushed
    rw [hrtake, h.rtake_eq_cons, List.tail_cons, ← hpushed, ← h.head_eq]
  · rw [h.sum_sub_oldest, hrtake, List.sum_append, List.sum_singleton]

theorem sum_eq_sum_range (h : SlidingWindow n cells head tail sum pushed) :
    sum = ∑ k ∈ Finset.range n, cells k := by
  rw [h.sum_eq, ← h.read_eq, (ringRead_perm cells h.head_lt).sum_eq]
  exact (Multiset.sum_coe _).symm

end SlidingWindow

end MeshAgent.Foundations
