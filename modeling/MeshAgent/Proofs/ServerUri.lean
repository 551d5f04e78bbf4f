import MeshAgent.Model.ServerUri
import MeshAgent.Proofs.ClientCall

/-!
# The registered key read back

`strtok` goes over the array twice: on `/` to the last segment, then on `:` inside it. What
the first pass overwrites lies in front of the last segment.
-/

namespace MeshAgent.Proofs
open MeshAgent.Foundations MeshAgent.Model

lemma digitsValue_map (l : List Char) (hl : ∀ c ∈ l, c.isDigit = true) (acc : Nat) :
    digitsValue (l.map digitByte) acc = Nat.ofDigitChars 10 l acc := by
  induction l generalizing acc with
  | nil => rfl
  | cons c l ih =>
    have hc := hl c (by simp)
    have hle : c.toNat ≤ 57 := (Char.isDigit_iff_toNat.mp hc).2
    have hval : (digitByte c).toNat = c.toNat := by
      rw [digitByte, UInt8.toNat_ofNat']
      omega
    rw [List.map_cons, digitsValue, if_pos (digitByte_bounds hc), Nat.ofDigitChars_cons,
      ih (fun c' hc' => hl c' (List.mem_cons_of_mem _ hc')), hval, Nat.mul_comm]
    rfl

lemma digitsValue_decimal (n : Nat) : digitsValue (decimal n) 0 = n := by
  rw [decimal, digitsValue_map _ fun c hc =>
    Nat.isDigit_of_mem_toDigits (by decide) (by decide) hc]
  exact Nat.ofDigitChars_ten_toDigits

lemma atoi_formatInt {x : Int} (hl : -2 ^ 31 ≤ x) (hr : x < 2 ^ 31) (rest : List UInt8) :
    atoi (formatInt x ++ 0 :: rest) = x := by
  unfold formatInt
  split_ifs with hneg
  · rw [List.cons_append, atoi_minus_digits _ (decimal_digits _) (by decide)
      (by rw [digitsValue_decimal]; omega), digitsValue_decimal]
    omega
  · rw [atoi_digits _ (decimal_ne_nil _) (decimal_digits _) (by decide)
      (by rw [digitsValue_decimal]; omega), digitsValue_decimal]
    omega

/-- Segments, each with a separator behind it. -/
def separated (delim : UInt8) (segments : List (List UInt8)) : List UInt8 :=
  segments.flatMap (· ++ [delim])

lemma lastSegment_eq {segments : List (List UInt8)} {last : List UInt8} (front rest : List UInt8)
    {fuel : Nat} (save : Nat) (serverUri : Option Nat) (hfuel : segments.length < fuel)
    (hsegments : ∀ segment ∈ segments, IsToken 47 segment) (hlast : IsToken 47 last) :
    ∃ front' save',
      let (pch, s) := strtok 47 (some front.length)
        ⟨front ++ (separated 47 segments ++ (last ++ 0 :: rest)), save⟩
      lastSegment fuel pch serverUri s =
        some (some front'.length, ⟨front' ++ (last ++ 0 :: rest), save'⟩) := by
  induction segments generalizing front fuel save serverUri with
  | nil =>
    obtain ⟨fuel, rfl⟩ : ∃ k, fuel = k + 1 := ⟨fuel - 1, by simp at hfuel; omega⟩
    have hend := strtok_end (show (47 : UInt8) ≠ 0 by decide) (front ++ last) rest
      (front.length + last.length)
    rw [List.length_append, List.append_assoc] at hend
    refine ⟨front, front.length + last.length, ?_⟩
    simp only [separated, List.flatMap_nil, List.nil_append, strtok_token hlast (.inr rfl),
      if_true, lastSegment, strtok_none, hend]
  | cons segment segments ih =>
    obtain ⟨fuel, rfl⟩ : ∃ k, fuel = k + 1 := ⟨fuel - 1, by simp at hfuel; omega⟩
    have hsegment := hsegments segment (by simp)
    obtain ⟨front', save', hrest⟩ := ih (front ++ (segment ++ [0]))
      (front ++ (segment ++ [0])).length (some front.length)
      (show segments.length < fuel by rw [List.length_cons] at hfuel; omega)
      fun s hs => hsegments s (List.mem_cons_of_mem _ hs)
    have hbuf : separated 47 (segment :: segments) ++ (last ++ 0 :: rest) =
        segment ++ 47 :: (separated 47 segments ++ (last ++ 0 :: rest)) := by
      simp [separated]
    have hwritten : front ++ (segment ++ 0 :: (separated 47 segments ++ (last ++ 0 :: rest))) =
        front ++ (segment ++ [0]) ++ (separated 47 segments ++ (last ++ 0 :: rest)) := by
      simp
    refine ⟨front', save', ?_⟩
    rw [hbuf, strtok_token hsegment (.inl rfl), if_neg (by decide), hwritten]
    simp only [lastSegment, strtok_none]
    exact hrest

/-- The segments of `servicePath`. -/
def serviceSegments : List (List UInt8) :=
  [ascii ['d', 'u', 'b', 'b', 'o', 'm', 'e', 's', 'h'],
    ascii ['c', 'o', 'm', '.', 'a', 'l', 'i', 'b', 'a', 'b', 'a', '.', 'd', 'u', 'b', 'b', 'o', '.',
      'p', 'e', 'r', 'f', 'o', 'r', 'm', 'a', 'n', 'c', 'e', '.', 'd', 'e', 'm', 'o', '.', 'p',
      'r', 'o', 'v', 'i', 'd', 'e', 'r', '.', 'I', 'H', 'e', 'l', 'l', 'o', 'S', 'e', 'r', 'v',
      'i', 'c', 'e']]

lemma servicePath_eq : servicePath = [47] ++ separated 47 serviceSegments := by decide

section

variable {scale : UInt8} {addr : List UInt8} {port : Int}

/-- The last segment: `scale:address:port`. -/
def uriSegment (scale : UInt8) (addr : List UInt8) (port : Int) : List UInt8 :=
  [scale] ++ 58 :: (addr ++ 58 :: formatInt port)

lemma isToken_uriSegment (hscale : scale ≠ 47 ∧ scale ≠ 0)
    (haddr : ∀ c ∈ addr, c ≠ 47 ∧ c ≠ 58 ∧ c ≠ 0) :
    IsToken 47 (uriSegment scale addr port) := by
  have hport := isToken_formatInt (show (47 : UInt8) ≠ 45 by decide) (by decide) port
  refine ⟨by simp [uriSegment], ?_⟩
  intro c hc
  simp only [uriSegment, List.cons_append, List.nil_append, List.mem_cons, List.mem_append] at hc
  rcases hc with rfl | rfl | hc | rfl | hc
  · exact hscale
  · decide
  · exact ⟨(haddr c hc).1, (haddr c hc).2.2⟩
  · decide
  · exact hport.2 c hc

lemma strToServerUri_eq {str front : List UInt8} {save : Nat}
    (hpass : lastSegment str.length (strtok 47 (some 1) ⟨str, 0⟩).1 none
        (strtok 47 (some 1) ⟨str, 0⟩).2 =
      some (some front.length, ⟨front ++ (uriSegment scale addr port ++ [0]), save⟩))
    (hscale : IsToken 58 [scale]) (haddr : IsToken 58 addr) (hlen : addr.length < serverAddrSize)
    (hl : -2 ^ 31 ≤ port) (hr : port < 2 ^ 31) :
    strToServerUri str =
      (scaleOf scale).map fun scale => { serverAddr := addr, port := port, scale := scale } := by
  have hport := isToken_formatInt (show (58 : UInt8) ≠ 45 by decide) (by decide) port
  have hfirst : strtok 58 (some front.length)
      ⟨front ++ (uriSegment scale addr port ++ [0]), save⟩ = (some front.length,
        ⟨front ++ [scale] ++ [0] ++ (addr ++ 58 :: (formatInt port ++ [0])),
          (front ++ [scale] ++ [0]).length⟩) := by
    have h := strtok_token hscale (.inl rfl) front (addr ++ 58 :: (formatInt port ++ [0])) save
    rw [if_neg (by decide)] at h
    simpa [uriSegment] using h
  have hhead : (front ++ [scale] ++ [0] ++ (addr ++ 58 :: (formatInt port ++ [0]))).getD
      front.length 0 = scale := by
    simp
  set front₁ := front ++ [scale] ++ [0]
  have hsecond : strtok 58 (some front₁.length)
      ⟨front₁ ++ (addr ++ 58 :: (formatInt port ++ [0])), front₁.length⟩ = (some front₁.length,
        ⟨front₁ ++ (addr ++ 0 :: (formatInt port ++ [0])),
          (front₁ ++ (addr ++ [0])).length⟩) := by
    have h := strtok_token haddr (.inl rfl) front₁ (formatInt port ++ [0]) front₁.length
    rwa [if_neg (by decide)] at h
  have hthird : strtok 58 (some (front₁ ++ (addr ++ [0])).length)
      ⟨front₁ ++ (addr ++ 0 :: (formatInt port ++ [0])), (front₁ ++ (addr ++ [0])).length⟩ =
        (some (front₁ ++ (addr ++ [0])).length,
          ⟨front₁ ++ (addr ++ [0]) ++ (formatInt port ++ [0]),
            (front₁ ++ (addr ++ [0])).length + (formatInt port).length⟩) := by
    have h := strtok_token hport (.inr rfl) (front₁ ++ (addr ++ [0])) []
      (front₁ ++ (addr ++ [0])).length
    rw [if_pos rfl] at h
    simpa using h
  unfold strToServerUri
  simp only [hpass, Option.bind_eq_bind, Option.bind_some, hfirst, strtok_none, hhead]
  cases scaleOf scale with
  | none => rfl
  | some scale =>
    simp only [Option.bind_some, hsecond, strtok_none, hthird, cString_token haddr,
      if_neg (Nat.not_le.mpr hlen), List.drop_left, atoi_formatInt hl hr, Option.map_some]

/-- What the provider agent registers, the consumer agent reads. -/
theorem strToServerUri_registrationKey (hscale : scale = 48 ∨ scale = 49 ∨ scale = 50)
    (hne : addr ≠ []) (hlen : addr.length < 256)
    (haddr : ∀ c ∈ addr, c ≠ 47 ∧ c ≠ 58 ∧ c ≠ 0)
    (hl : -2 ^ 31 ≤ port) (hr : port < 2 ^ 31) :
    strToServerUri (registrationKey scale addr port ++ [0]) =
      some { serverAddr := addr, port := port, scale := scale.toNat - 48 } := by
  obtain ⟨hslash, hscaleToken, hscaleOf⟩ : scale ≠ 47 ∧ IsToken 58 [scale] ∧
      scaleOf scale = some (scale.toNat - 48 : Int) := by
    rcases hscale with rfl | rfl | rfl <;> decide
  have hlast : IsToken 47 (uriSegment scale addr port) :=
    isToken_uriSegment ⟨hslash, (hscaleToken.2 scale (by simp)).2⟩ haddr
  have hkey : registrationKey scale addr port ++ [0] =
      [47] ++ (separated 47 serviceSegments ++ (uriSegment scale addr port ++ [0])) := by
    rw [registrationKey, servicePath_eq]
    simp [uriSegment]
  have hfuel : serviceSegments.length < (registrationKey scale addr port ++ [0]).length := by
    have hpath : servicePath.length = 69 := by decide
    have hsegments : serviceSegments.length = 2 := rfl
    rw [registrationKey, List.append_assoc, List.length_append]
    omega
  obtain ⟨front, save, hpass⟩ := lastSegment_eq [47] [] 0 none hfuel (by decide) hlast
  have hresult := strToServerUri_eq (by rwa [← hkey] at hpass) hscaleToken
    ⟨hne, fun c hc => (haddr c hc).2⟩ hlen hl hr
  rw [hresult, hscaleOf]
  rfl

theorem strToServerUri_medium :
    strToServerUri (registrationKey 49 [49, 48, 46, 48, 46, 48, 46, 50] (-30000) ++ [0]) =
      some { serverAddr := [49, 48, 46, 48, 46, 48, 46, 50], port := -30000, scale := 1 } :=
  strToServerUri_registrationKey (by decide) (by decide) (by decide) (by simp) (by decide)
    (by decide)

end

end MeshAgent.Proofs
