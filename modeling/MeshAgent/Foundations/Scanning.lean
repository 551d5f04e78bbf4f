import Mathlib.Data.List.Basic
import Mathlib.Data.Nat.Find
import Mathlib.Order.Basic
import Mathlib.Tactic.Lemma
import Mathlib.Tactic.TypeStar
import Mathlib.Tactic.Push

/-!
# Scanning a list for a separator

Positions that a scan from `i` stops at: the first occurrence of a value, or the next
occurrence or the end of the list.
-/

namespace MeshAgent.Foundations

variable {β : Type*}

/-- `e` is the first position at or after `i` that holds `c`. -/
structure FirstAt (xs : List β) (c : β) (i e : Nat) : Prop where
  le : i ≤ e
  hit : xs[e]? = some c
  free : ∀ k, i ≤ k → k < e → xs[k]? ≠ some c

/-- `s` is the next position at or after `i` that holds `c`, or the end. -/
structure NextOrEnd (xs : List β) (c : β) (i s : Nat) : Prop where
  le : i ≤ s
  le_length : s ≤ xs.length
  free : ∀ k, i ≤ k → k < s → xs[k]? ≠ some c
  hit : s < xs.length → xs[s]? = some c

lemma FirstAt.lt_length {xs : List β} {c : β} {i e : Nat} (h : FirstAt xs c i e) :
    e < xs.length :=
  (List.getElem?_eq_some_iff.mp h.hit).1

lemma FirstAt.exists {xs : List β} {c : β} {i q : Nat} (hiq : i ≤ q) (hq : xs[q]? = some c) :
    ∃ e, FirstAt xs c i e ∧ e ≤ q := by
  classical
  have hex : ∃ e, i ≤ e ∧ xs[e]? = some c := ⟨q, hiq, hq⟩
  refine ⟨Nat.find hex, ⟨(Nat.find_spec hex).1, (Nat.find_spec hex).2, ?_⟩,
    Nat.find_min' hex ⟨hiq, hq⟩⟩
  intro k hik hk hc
  exact Nat.find_min hex hk ⟨hik, hc⟩

lemma NextOrEnd.exists (xs : List β) (c : β) {i : Nat} (hi : i ≤ xs.length) :
    ∃ s, NextOrEnd xs c i s := by
  by_cases hex : ∃ q, i ≤ q ∧ xs[q]? = some c
  · obtain ⟨q, hiq, hq⟩ := hex
    obtain ⟨e, he, -⟩ := FirstAt.exists hiq hq
    exact ⟨e, he.le, Nat.le_of_lt he.lt_length, he.free, fun _ => he.hit⟩
  · push Not at hex
    exact ⟨xs.length, hi, Nat.le_refl _, fun k hik _ => hex k hik,
      fun h => absurd h (Nat.lt_irrefl _)⟩

lemma getElem?_append_middle (pre ys post : List β) (k : Nat) (hl : pre.length ≤ k)
    (hr : k < pre.length + ys.length) : (pre ++ (ys ++ post))[k]? = ys[k - pre.length]? := by
  rw [List.getElem?_append_right hl, List.getElem?_append_left (by omega)]

lemma firstAt_append (pre ys post : List β) (c : β) (h : c ∉ ys) :
    FirstAt (pre ++ (ys ++ c :: post)) c pre.length (pre.length + ys.length) := by
  refine ⟨by omega, ?_, ?_⟩
  · rw [List.getElem?_append_right (by omega), List.getElem?_append_right (by omega)]
    simp
  · intro k hl hr hk
    rw [getElem?_append_middle pre ys _ k hl hr] at hk
    exact h (List.mem_of_getElem? hk)

/-- The next `c` or the end behind `pre`, when what follows is a block `ys` free of `c`
and then nothing, or `c`. -/
lemma nextOrEnd_append (pre ys post : List β) (c : β) (h : c ∉ ys)
    (hpost : post = [] ∨ post.head? = some c) :
    NextOrEnd (pre ++ (ys ++ post)) c pre.length (pre.length + ys.length) := by
  refine ⟨by omega, by simp only [List.length_append]; omega, ?_, ?_⟩
  · intro k hl hr hk
    rw [getElem?_append_middle pre ys _ k hl hr] at hk
    exact h (List.mem_of_getElem? hk)
  · intro hlt
    simp only [List.length_append] at hlt
    rw [List.getElem?_append_right (by omega), List.getElem?_append_right (by omega)]
    have hne : post ≠ [] := by
      rintro rfl
      simp at hlt
    rcases hpost with rfl | hhead
    · exact absurd rfl hne
    · cases post with
      | nil => exact absurd rfl hne
      | cons p post => simpa using hhead

end MeshAgent.Foundations
