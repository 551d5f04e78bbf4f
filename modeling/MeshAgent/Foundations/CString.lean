import Mathlib.Data.Nat.Notation
import Mathlib.Tactic.Lemma
import Mathlib.Tactic.SplitIfs

/-!
# Strings of C

A `char` array is a list of bytes and a pointer into it is an offset. `strtok` keeps where
to go on and writes a NUL behind each token it returns.
-/

namespace MeshAgent.Foundations

/-- The string that starts at `p`. -/
def cString (buf : List UInt8) (p : Nat) : List UInt8 := (buf.drop p).takeWhile (· ≠ 0)

/-- The array that is taken apart, and the pointer that `strtok` keeps. -/
structure StrtokState where
  buf : List UInt8
  save : Nat
deriving DecidableEq

/-- The number of leading bytes that are the delimiter. -/
def strspn (delim : UInt8) (s : List UInt8) : Nat := (s.takeWhile (· = delim)).length

/-- The number of leading bytes that are neither the delimiter nor NUL. -/
def strcspn (delim : UInt8) (s : List UInt8) : Nat :=
  (s.takeWhile fun c => c ≠ delim ∧ c ≠ 0).length

/-- `strtok(str, delim)` for one delimiter; without `str` it goes on where it was. -/
def strtok (delim : UInt8) (str : Option Nat) (s : StrtokState) : Option Nat × StrtokState :=
  let start := str.getD s.save
  let token := start + strspn delim (s.buf.drop start)
  if s.buf.getD token 0 = 0 then (none, { s with save := token })
  else
    let stop := token + strcspn delim (s.buf.drop token)
    if s.buf.getD stop 0 = 0 then (some token, { s with save := stop })
    else (some token, { buf := s.buf.set stop 0, save := stop + 1 })

/-- Bytes that a token may have. -/
def IsToken (delim : UInt8) (tok : List UInt8) : Prop :=
  tok ≠ [] ∧ ∀ c ∈ tok, c ≠ delim ∧ c ≠ 0

instance (delim : UInt8) (tok : List UInt8) : Decidable (IsToken delim tok) :=
  @instDecidableAnd _ _ _ (List.decidableBAll _ tok)

section

variable {delim c : UInt8} {tok : List UInt8}

lemma strcspn_token (h : IsToken delim tok) (hc : c = delim ∨ c = 0) (rest : List UInt8) :
    strcspn delim (tok ++ c :: rest) = tok.length := by
  unfold strcspn
  rw [List.takeWhile_append_of_pos fun b hb => decide_eq_true (h.2 b hb),
    List.takeWhile_cons_of_neg (by rcases hc with rfl | rfl <;> simp), List.append_nil]

lemma strspn_token (h : IsToken delim tok) (rest : List UInt8) :
    strspn delim (tok ++ rest) = 0 := by
  obtain ⟨b, tok, rfl⟩ := List.exists_cons_of_ne_nil h.1
  have hb := (h.2 b (by simp)).1
  simp [strspn, hb]

/-- What one call does at the start of a token, with its delimiter or its end behind it. -/
lemma strtok_token (h : IsToken delim tok) (hc : c = delim ∨ c = 0) (front rest : List UInt8)
    (save : Nat) :
    strtok delim (some front.length) ⟨front ++ (tok ++ c :: rest), save⟩ =
      if c = 0 then
        (some front.length, ⟨front ++ (tok ++ c :: rest), front.length + tok.length⟩)
      else (some front.length,
        ⟨front ++ (tok ++ 0 :: rest), (front ++ (tok ++ [0])).length⟩) := by
  obtain ⟨b, tok', htok⟩ := List.exists_cons_of_ne_nil h.1
  have hb := (h.2 b (by simp [htok])).2
  have hfirst : (front ++ (tok ++ c :: rest)).getD front.length 0 = b := by
    simp [htok]
  have hlast : (front ++ (tok ++ c :: rest)).getD (front.length + tok.length) 0 = c := by
    simp
  have hset : (front ++ (tok ++ c :: rest)).set (front.length + tok.length) 0 =
      front ++ (tok ++ 0 :: rest) := by
    simp
  unfold strtok
  simp only [Option.getD_some, List.drop_left, strspn_token h, Nat.add_zero, hfirst, if_neg hb,
    strcspn_token h hc, hlast, hset, List.length_append, List.length_singleton, Nat.add_assoc]

lemma strtok_end (hdelim : delim ≠ 0) (front rest : List UInt8) (save : Nat) :
    strtok delim (some front.length) ⟨front ++ 0 :: rest, save⟩ =
      (none, ⟨front ++ 0 :: rest, front.length⟩) := by
  unfold strtok
  simp [strspn, hdelim.symm]

lemma strtok_none (buf : List UInt8) (save : Nat) :
    strtok delim none ⟨buf, save⟩ = strtok delim (some save) ⟨buf, save⟩ := rfl

lemma cString_token (h : IsToken delim tok) (front rest : List UInt8) :
    cString (front ++ (tok ++ 0 :: rest)) front.length = tok := by
  unfold cString
  rw [List.drop_left, List.takeWhile_append_of_pos fun b hb => decide_eq_true (h.2 b hb).2,
    List.takeWhile_cons_of_neg (by simp), List.append_nil]

end

def digitByte (c : Char) : UInt8 := UInt8.ofNat c.toNat

/-- The decimal numeral of a natural number. -/
def decimal (n : Nat) : List UInt8 := (Nat.toDigits 10 n).map digitByte

/-- `%d`. -/
def formatInt (x : Int) : List UInt8 :=
  if x < 0 then 45 :: decimal (-x).toNat else decimal x.toNat

lemma decimal_ne_nil (n : Nat) : decimal n ≠ [] := by
  simp [decimal, Nat.toDigits_ne_nil]

lemma digitByte_bounds {c : Char} (h : c.isDigit = true) :
    48 ≤ digitByte c ∧ digitByte c ≤ 57 := by
  have hc : 48 ≤ c.toNat ∧ c.toNat ≤ 57 := Char.isDigit_iff_toNat.mp h
  have hval : (digitByte c).toNat = c.toNat := by
    rw [digitByte, UInt8.toNat_ofNat']
    omega
  rw [UInt8.le_iff_toNat_le, UInt8.le_iff_toNat_le, hval]
  exact hc

lemma decimal_digits (n : Nat) : ∀ b ∈ decimal n, 48 ≤ b ∧ b ≤ 57 := by
  intro b hb
  obtain ⟨c, hc, rfl⟩ := List.mem_map.mp hb
  exact digitByte_bounds (Nat.isDigit_of_mem_toDigits (by decide) (by decide) hc)

lemma isToken_formatInt {delim : UInt8} (hminus : delim ≠ 45)
    (hdigit : ¬ (48 ≤ delim ∧ delim ≤ 57)) (x : Int) : IsToken delim (formatInt x) := by
  have hdigits : ∀ n, ∀ c ∈ decimal n, c ≠ delim ∧ c ≠ 0 := by
    intro n c hc
    have h := decimal_digits n c hc
    constructor
    · rintro rfl
      exact hdigit h
    · rintro rfl
      exact absurd h (by decide)
  unfold formatInt
  split_ifs
  · refine ⟨by simp, fun c hc => ?_⟩
    rcases List.mem_cons.mp hc with rfl | hc
    · exact ⟨hminus.symm, by decide⟩
    · exact hdigits _ c hc
  · exact ⟨decimal_ne_nil _, hdigits _⟩

end MeshAgent.Foundations
