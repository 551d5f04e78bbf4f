import Mathlib.Algebra.BigOperators.Group.Finset.Piecewise
import Mathlib.Algebra.BigOperators.Fin
import Mathlib.Tactic.Lemma

/-!
# Counting

How many of the first `n` flags are raised, and how a sum of shares changes when one party
takes a step.
-/

namespace MeshAgent.Foundations

/-- The number of raised flags below `n`. -/
def tally (p : Nat → Bool) (n : Nat) : Nat := (List.range n).countP p

variable {p q : Nat → Bool} {n k : Nat}

lemma tally_succ (p : Nat → Bool) (n : Nat) :
    tally p (n + 1) = tally p n + if p n = true then 1 else 0 := by
  rw [tally, List.range_succ, List.countP_append, List.countP_singleton]
  rfl

lemma tally_le (p : Nat → Bool) (n : Nat) : tally p n ≤ n := by
  have h := List.countP_le_length (p := p) (l := List.range n)
  rwa [List.length_range] at h

lemma tally_congr (h : ∀ i, i < n → q i = p i) : tally q n = tally p n := by
  induction n with
  | zero => rfl
  | succ n ih =>
    rw [tally_succ, tally_succ, ih (fun i hi => h i (by omega)), h n (by omega)]

lemma tally_eq_zero (h : ∀ i, i < n → p i = false) : tally p n = 0 := by
  induction n with
  | zero => rfl
  | succ n ih =>
    rw [tally_succ, ih (fun i hi => h i (by omega)), h n (by omega)]
    rfl

lemma tally_raise (hk : k < n) (hp : p k = false) (hq : q k = true)
    (hsame : ∀ i, i ≠ k → q i = p i) : tally q n = tally p n + 1 := by
  induction n with
  | zero => omega
  | succ n ih =>
    rw [tally_succ, tally_succ]
    by_cases hn : n = k
    · subst hn
      rw [tally_congr (fun i hi => hsame i (by omega)), hp, hq]
      rfl
    · rw [ih (by omega), hsame n hn]
      omega

lemma tally_lower (hk : k < n) (hp : p k = true) (hq : q k = false)
    (hsame : ∀ i, i ≠ k → q i = p i) : tally q n + 1 = tally p n :=
  (tally_raise hk hq hp (fun i hi => (hsame i hi).symm)).symm

lemma tally_eq_iff : tally p n = n ↔ ∀ i, i < n → p i = true := by
  induction n with
  | zero => exact ⟨fun _ i hi => absurd hi (Nat.not_lt_zero i), fun _ => rfl⟩
  | succ n ih =>
    have hle := tally_le p n
    rw [tally_succ]
    constructor
    · intro h i hi
      by_cases hlast : p n = true
      · rw [if_pos hlast] at h
        by_cases hin : i = n
        · exact hin ▸ hlast
        · exact ih.mp (by omega) i (by omega)
      · rw [if_neg hlast] at h
        omega
    · intro h
      rw [if_pos (h n (by omega)), ih.mpr (fun i hi => h i (by omega))]

lemma sum_range_update {σ : Type*} (share : σ → Nat) (parties : Nat → σ) (hk : k < n) (x : σ) :
    (∑ i ∈ Finset.range n, share (Function.update parties k x i)) + share (parties k) =
      (∑ i ∈ Finset.range n, share (parties i)) + share x := by
  have hmem : k ∈ Finset.range n := Finset.mem_range.mpr hk
  have hterm : ∀ i, share (Function.update parties k x i) =
      Function.update (fun i => share (parties i)) k (share x) i := by
    intro i
    by_cases hi : i = k
    · rw [hi, Function.update_self, Function.update_self]
    · rw [Function.update_of_ne hi, Function.update_of_ne hi]
  have hsum := Finset.sum_eq_add_sum_sdiff_singleton_of_mem hmem (fun i => share (parties i))
  simp only [hterm]
  rw [Finset.sum_update_of_mem hmem]
  omega

end MeshAgent.Foundations
