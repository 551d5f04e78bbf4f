import Mathlib.Data.List.Basic
import Mathlib.Tactic.Lemma

/-!
# Percent coding

Byte strings in which a byte may be written as `%` and two hex digits.
-/

namespace MeshAgent.Foundations

/-- The value of a hex digit of either case. -/
def hexDigitValue (c : UInt8) : Option Nat :=
  if 48 ≤ c ∧ c ≤ 57 then some (c.toNat - 48)
  else if 65 ≤ c ∧ c ≤ 70 then some (c.toNat - 55)
  else if 97 ≤ c ∧ c ≤ 102 then some (c.toNat - 87)
  else none

/-- The byte that two hex digits stand for. -/
def hexPair (h l : UInt8) : UInt8 :=
  UInt8.ofNat ((hexDigitValue h).getD 0 * 16 + (hexDigitValue l).getD 0)

/-- The decoded string; an escape that the end cuts off stands for a `%`. -/
def percentDecode : List UInt8 → List UInt8
  | [] => []
  | c :: v =>
    if c = 37 then
      match v with
      | h :: l :: v => hexPair h l :: percentDecode v
      | _ => [37]
    else c :: percentDecode v

/-- Every `%` is followed by two hex digits. -/
def PercentValid (v : List UInt8) : Prop :=
  ∀ pre post, v = pre ++ 37 :: post → ∃ h l rest, post = h :: l :: rest ∧
    (hexDigitValue h).isSome = true ∧ (hexDigitValue l).isSome = true

lemma PercentValid.of_append {u v : List UInt8} (h : PercentValid (u ++ v)) : PercentValid v := by
  rintro pre post rfl
  exact h (u ++ pre) post (by simp)

lemma ne_percent_of_isSome {c : UInt8} (h : (hexDigitValue c).isSome = true) : c ≠ 37 := by
  rintro rfl
  simp [hexDigitValue] at h

lemma PercentValid.cons {c : UInt8} {v : List UInt8} (hc : c ≠ 37) (h : PercentValid v) :
    PercentValid (c :: v) := by
  rintro (_ | ⟨d, pre⟩) post hv
  · simp only [List.nil_append, List.cons.injEq] at hv
    exact absurd hv.1 hc
  · simp only [List.cons_append, List.cons.injEq] at hv
    exact h pre post hv.2

lemma PercentValid.append {u v : List UInt8} (hu : 37 ∉ u) (h : PercentValid v) :
    PercentValid (u ++ v) := by
  induction u with
  | nil => exact h
  | cons c u ih =>
    have hc : c ≠ 37 := fun he => hu (by simp [he])
    exact (ih (fun hmem => hu (List.mem_cons_of_mem _ hmem))).cons hc

lemma PercentValid.cons_escape {d l : UInt8} {v : List UInt8}
    (hd : (hexDigitValue d).isSome = true) (hl : (hexDigitValue l).isSome = true)
    (h : PercentValid v) : PercentValid (37 :: d :: l :: v) := by
  have htail := (h.cons (ne_percent_of_isSome hl)).cons (ne_percent_of_isSome hd)
  rintro (_ | ⟨c, pre⟩) post hv
  · simp only [List.nil_append, List.cons.injEq, true_and] at hv
    exact ⟨d, l, v, hv.symm, hd, hl⟩
  · simp only [List.cons_append, List.cons.injEq] at hv
    exact htail pre post hv.2

lemma percentValid_nil : PercentValid [] :=
  fun _ _ h => absurd h (by simp)

lemma percentValid_of_notMem {v : List UInt8} (hv : 37 ∉ v) : PercentValid v := by
  have h := percentValid_nil.append hv
  rwa [List.append_nil] at h

@[simp] lemma percentDecode_nil : percentDecode [] = [] := by
  rw [percentDecode]

lemma percentDecode_cons {c : UInt8} (hc : c ≠ 37) (v : List UInt8) :
    percentDecode (c :: v) = c :: percentDecode v := by
  rw [percentDecode.eq_def]
  simp only [if_neg hc]

lemma percentDecode_escape (h l : UInt8) (v : List UInt8) :
    percentDecode (37 :: h :: l :: v) = hexPair h l :: percentDecode v := by
  rw [percentDecode.eq_def]
  simp only [if_true]

lemma percentDecode_cut {v : List UInt8} (hv : v.length < 2) : percentDecode (37 :: v) = [37] := by
  match v, hv with
  | [], _ => simp [percentDecode]
  | [_], _ => simp [percentDecode]

lemma percentDecode_append {u : List UInt8} (hu : 37 ∉ u) (v : List UInt8) :
    percentDecode (u ++ v) = u ++ percentDecode v := by
  induction u with
  | nil => simp
  | cons c u ih =>
    have hc : c ≠ 37 := fun h => hu (by simp [h])
    rw [List.cons_append, percentDecode_cons hc, ih (fun h => hu (List.mem_cons_of_mem _ h)),
      List.cons_append]

lemma percentDecode_self {v : List UInt8} (hv : 37 ∉ v) : percentDecode v = v := by
  have h := percentDecode_append hv []
  rw [List.append_nil, percentDecode_nil, List.append_nil] at h
  exact h

lemma PercentValid.escape {v : List UInt8} (h : PercentValid (37 :: v)) :
    ∃ d l rest, v = d :: l :: rest ∧ (hexDigitValue d).isSome = true ∧
      (hexDigitValue l).isSome = true :=
  h [] v rfl

lemma length_percentDecode {v : List UInt8} (h : PercentValid v) :
    (percentDecode v).length + 2 * v.count 37 = v.length := by
  induction v using percentDecode.induct with
  | case1 => simp
  | case2 d l v ih =>
    obtain ⟨d', l', rest, heq, hd, hl⟩ := h.escape
    simp only [List.cons.injEq] at heq
    obtain ⟨rfl, rfl, rfl⟩ := heq
    have hrest := ih (PercentValid.of_append (u := [37, d, l]) h)
    rw [percentDecode_escape, List.count_cons_self, List.count_cons_of_ne (ne_percent_of_isSome hd),
      List.count_cons_of_ne (ne_percent_of_isSome hl)]
    simp only [List.length_cons]
    omega
  | case3 v hcut =>
    obtain ⟨d, l, rest, rfl, -⟩ := h.escape
    exact absurd rfl (hcut d l rest)
  | case4 c v hc ih =>
    have hrest := ih (PercentValid.of_append (u := [c]) h)
    rw [percentDecode_cons hc, List.count_cons_of_ne hc]
    simp only [List.length_cons]
    omega

lemma percentDecode_eq_self_iff {v : List UInt8} (h : PercentValid v) :
    percentDecode v = v ↔ 37 ∉ v := by
  constructor
  · intro heq hmem
    have hlen := length_percentDecode h
    have hpos := List.count_pos_iff.mpr hmem
    rw [heq] at hlen
    omega
  · exact percentDecode_self

/-- A string is a block without `%`, followed by nothing or by a `%`. -/
lemma exists_percent_split (v : List UInt8) :
    ∃ u rest, v = u ++ rest ∧ 37 ∉ u ∧ (rest = [] ∨ ∃ t, rest = 37 :: t) := by
  by_cases h : 37 ∈ v
  · obtain ⟨u, t, hv, hu⟩ := List.eq_append_cons_of_mem h
    exact ⟨u, 37 :: t, hv, hu, .inr ⟨t, rfl⟩⟩
  · exact ⟨v, [], by simp, h, .inl rfl⟩

/-- `PercentEncodes keep v s`: `v` is `s` with every byte outside `keep` escaped, with hex
digits of either case. -/
inductive PercentEncodes (keep : UInt8 → Prop) : List UInt8 → List UInt8 → Prop
  | nil : PercentEncodes keep [] []
  | plain {c : UInt8} {v s : List UInt8} : keep c → PercentEncodes keep v s →
      PercentEncodes keep (c :: v) (c :: s)
  | escape {c h l : UInt8} {v s : List UInt8} : ¬ keep c →
      hexDigitValue h = some (c.toNat / 16) → hexDigitValue l = some (c.toNat % 16) →
      PercentEncodes keep v s → PercentEncodes keep (37 :: h :: l :: v) (c :: s)

variable {keep : UInt8 → Prop} {v s : List UInt8}

/-- Decoding undoes encoding. -/
theorem PercentEncodes.decode (hkeep : ¬ keep 37) (h : PercentEncodes keep v s) :
    percentDecode v = s := by
  induction h with
  | nil => simp
  | plain hc _ ih =>
    rw [percentDecode_cons (fun he => hkeep (he ▸ hc)), ih]
  | @escape c h l v s _ hh hl _ ih =>
    have hval : c.toNat / 16 * 16 + c.toNat % 16 = c.toNat := by omega
    rw [percentDecode_escape, hexPair, hh, hl, ih, Option.getD_some, Option.getD_some, hval,
      UInt8.ofNat_toNat]

lemma PercentEncodes.eq_of_keep (h : PercentEncodes keep v s) (hs : ∀ c ∈ s, keep c) : v = s := by
  induction h with
  | nil => rfl
  | plain _ _ ih => rw [ih (fun d hd => hs d (List.mem_cons_of_mem _ hd))]
  | escape hc _ _ _ _ => exact absurd (hs _ (by simp)) hc

lemma PercentEncodes.valid (hkeep : ¬ keep 37) (h : PercentEncodes keep v s) : PercentValid v := by
  induction h with
  | nil => exact percentValid_nil
  | plain hc _ ih => exact ih.cons (fun he => hkeep (he ▸ hc))
  | escape _ hd hl _ ih => exact ih.cons_escape (by simp [hd]) (by simp [hl])

end MeshAgent.Foundations
