import MeshAgent.Model.Utils

/-!
# The byte-wise counter

`increase_long_by_one` adds one to eight bytes in place, as a little-endian number.
-/

namespace MeshAgent.Proofs
open MeshAgent.Foundations MeshAgent.Model

lemma increaseBytes_eq_write (bytes : Mem UInt8) (a : Int) (n : Nat) :
    increaseBytes bytes a n = bytes.write a (leSucc (bytes.read a n)) := by
  induction n generalizing bytes a with
  | zero => rw [Mem.read_zero, leSucc, Mem.write_nil, increaseBytes]
  | succ n ih =>
    have hrest : (bytes.write a [bytes a + 1]).read (a + 1) n = bytes.read (a + 1) n :=
      Mem.read_write_after _ _ _ _ _ (by simp)
    have hsame : (bytes.write a [bytes a + 1]).write (a + 1) (bytes.read (a + 1) n) =
        bytes.write a [bytes a + 1] := by
      rw [← hrest, Mem.write_read_self]
    rw [Mem.read_succ, leSucc]
    unfold increaseBytes
    by_cases hwrap : bytes a + 1 = 0
    · rw [if_neg (not_not_intro hwrap), if_pos hwrap, ih, hrest,
        Mem.write_write_append _ _ _ _ _ (by simp), List.singleton_append]
    · rw [if_pos hwrap, if_neg hwrap, ← hsame,
        Mem.write_write_append _ _ _ _ _ (by simp), List.singleton_append]

lemma read_increaseLongByOne (bytes : Mem UInt8) (a : Int) :
    (increaseLongByOne bytes a).read a 8 = leSucc (bytes.read a 8) := by
  rw [increaseLongByOne, increaseBytes_eq_write, Mem.read_write_self _ _ _ _ (by simp)]

/-- The bytes around the counter stay as they are. -/
theorem increaseLongByOne_frame (bytes : Mem UInt8) (a x : Int) (h : x < a ∨ a + 8 ≤ x) :
    increaseLongByOne bytes a x = bytes x := by
  rw [increaseLongByOne, increaseBytes_eq_write]
  rcases h with h | h
  · exact Mem.write_apply_of_lt _ _ _ _ h
  · apply Mem.write_apply_of_ge
    rw [length_leSucc, Mem.length_read]
    exact h

/-- `n` calls add `n`, modulo `2 ^ 64`. -/
theorem leValue_increaseLongByOne_iterate (bytes : Mem UInt8) (a : Int) (n : Nat) :
    leValue (((fun bytes => increaseLongByOne bytes a)^[n] bytes).read a 8) =
      (leValue (bytes.read a 8) + n) % 2 ^ 64 := by
  have hread : ((fun bytes => increaseLongByOne bytes a)^[n] bytes).read a 8 =
      leSucc^[n] (bytes.read a 8) := by
    induction n with
    | zero => rfl
    | succ n ih =>
      rw [Function.iterate_succ_apply', Function.iterate_succ_apply', read_increaseLongByOne, ih]
  have hpow : 256 ^ 8 = 2 ^ 64 := by norm_num
  rw [hread, leValue_leSucc_iterate, Mem.length_read, hpow]

end MeshAgent.Proofs
