import MeshAgent.Foundations.LengthPrefix
import MeshAgent.Model.FrameBuffer

/-!
# Buffers of length-prefixed frames

The tests and the move that the three reassembly loops share, in terms of the buffered
bytes.
-/

namespace MeshAgent.Proofs
open MeshAgent.Foundations MeshAgent.Model

lemma sizeTOfInt_of_nonneg {x : Int} (hl : 0 ≤ x) (hr : x < 2 ^ 32) : sizeTOfInt x = x.toNat :=
  unsigned_eq_toNat hl (by omega)

lemma lt_sizeTOfInt_of_neg {x : Int} (hl : -2 ^ 31 ≤ x) (hr : x < 0) {n : Nat} (hn : n < 2 ^ 32) :
    n < sizeTOfInt x := by
  have h : (sizeTOfInt x : Int) = x + 2 ^ 64 := unsigned_of_neg (by omega) hr
  omega

lemma addInt_of_lt {x y : Int} (hl : -2 ^ 31 ≤ x + y) (hr : x + y < 2 ^ 31) :
    addInt x y = x + y :=
  signed_eq_self (k := 31) hl hr

lemma addInt_of_ge {x y : Int} (hl : 2 ^ 31 ≤ x + y) (hr : x + y < 2 ^ 32 + 2 ^ 31) :
    addInt x y = x + y - 2 ^ 32 := by
  have h : signed 32 ((x + y) % 2 ^ 32) = signed 32 (x + y) := signed_emod 31 (x + y)
  have hmod : (x + y) % 2 ^ 32 = (x + y - 2 ^ 32) % 2 ^ 32 := by
    rw [Int.sub_emod_right]
  rw [addInt, ← h, hmod, signed_emod 31]
  exact signed_eq_self (k := 31) (by omega) (by omega)

lemma fourCharToInt_bounds (raw : Mem UInt8) (a : Int) :
    -2 ^ 31 ≤ fourCharToInt raw a ∧ fourCharToInt raw a < 2 ^ 31 :=
  ⟨le_signed 31 _, signed_lt 31 _⟩

lemma fourCharToInt_eq_beInt (m : Mem UInt8) (a : Int) : fourCharToInt m a = beInt (m.read a 4) :=
  fourCharToInt_eq m a

lemma fourCharToInt_eq_lengthField (raw : Mem UInt8) {o size : Nat} (h : o + 4 ≤ size) :
    fourCharToInt raw o = lengthField o (raw.read 0 size) := by
  rw [fourCharToInt_eq_beInt, lengthField, Mem.drop_read _ _ _ _ (by omega),
    Mem.take_read _ _ _ _ (by omega), zero_add]

/-- What a pass takes off the size. -/
def takenBytes (header o : Nat) (raw : Mem UInt8) (size : Nat) : Nat :=
  match bufferedFrame header o raw size with
  | none => 0
  | some (_, lastLength) => sizeTOfInt lastLength

lemma takenBytes_le (header o : Nat) (raw : Mem UInt8) (size : Nat) :
    takenBytes header o raw size ≤ size := by
  unfold takenBytes bufferedFrame
  by_cases hshort : size < header
  · rw [if_pos hshort]
    exact Nat.zero_le size
  · rw [if_neg hshort]
    simp only
    by_cases hincomplete : size < sizeTOfInt (addInt header (fourCharToInt raw o))
    · rw [if_pos hincomplete]
      exact Nat.zero_le size
    · rw [if_neg hincomplete]
      exact Nat.le_of_not_lt hincomplete

section

variable {header o : Nat} {ho : o + 4 ≤ header} {P : List UInt8 → Prop} {raw : Mem UInt8}
  {size : Nat}

/-- The tests pass exactly if the length field, as a signed number, makes a frame that is
buffered; a sum that wraps is negative, and a negative length is a huge `size_t`. -/
theorem bufferedFrame_eq_some_iff {length lastLength : Int} (hheader : header < 2 ^ 31)
    (hsize : size < 2 ^ 31) :
    bufferedFrame header o raw size = some (length, lastLength) ↔
      header ≤ size ∧ length = fourCharToInt raw o ∧ lastLength = header + length ∧
        0 ≤ lastLength ∧ lastLength ≤ size := by
  obtain ⟨hl, hr⟩ := fourCharToInt_bounds raw o
  rw [bufferedFrame]
  generalize fourCharToInt raw o = field at hl hr
  by_cases hshort : size < header
  · rw [if_pos hshort]
    simp only [reduceCtorEq, false_iff]
    omega
  rw [if_neg hshort]
  have hoffer : size < sizeTOfInt (addInt header field) ↔
      ¬ (0 ≤ header + field ∧ header + field ≤ size) := by
    by_cases hwrap : header + field < 2 ^ 31
    · rw [addInt_of_lt (by omega) hwrap]
      by_cases hneg : header + field < 0
      · have := lt_sizeTOfInt_of_neg (by omega) hneg (show size < 2 ^ 32 by omega)
        omega
      · rw [sizeTOfInt_of_nonneg (by omega) (by omega)]
        omega
    · rw [addInt_of_ge (by omega) (by omega)]
      have := lt_sizeTOfInt_of_neg (x := header + field - 2 ^ 32) (by omega) (by omega)
        (show size < 2 ^ 32 by omega)
      omega
  simp only [hoffer]
  split
  · simp only [reduceCtorEq, false_iff]
    omega
  · simp only [Option.some.injEq, Prod.mk.injEq]
    rw [addInt_of_lt (by omega) (by omega)]
    omega

/-- An incomplete content makes the pass return, also when the length field is so large
that the sum with the header size wraps. -/
lemma bufferedFrame_of_next_eq_none (hheader : header < 2 ^ 31) (hsize : size < 2 ^ 31)
    (h : (lengthCode header o ho P).next (raw.read 0 size) = none) :
    bufferedFrame header o raw size = none := by
  rw [Option.eq_none_iff_forall_ne_some]
  rintro ⟨length, lastLength⟩ hfound
  obtain ⟨hle, hlength, hlast, -, hfits⟩ := (bufferedFrame_eq_some_iff hheader hsize).mp hfound
  rw [fourCharToInt_eq_lengthField raw (show o + 4 ≤ size by omega)] at hlength
  have hnone := lengthCode_next_eq_none h
  rw [Mem.length_read] at hnone
  omega

lemma bufferedFrame_of_frame {f x : List UInt8} (hf : LengthPrefixed header o f)
    (ho : o + 4 ≤ header) (hsize : size < 2 ^ 31) (h : raw.read 0 size = f ++ x) :
    bufferedFrame header o raw size = some ((f.length : Int) - header, (f.length : Int)) := by
  have hle := hf.le_length
  have hlen := Mem.length_of_read_append h
  have hfield : fourCharToInt raw o = (f.length : Int) - header := by
    rw [fourCharToInt_eq_lengthField raw (show o + 4 ≤ size by omega), h,
      lengthField_append (by omega), hf.field]
  rw [bufferedFrame_eq_some_iff (by omega) hsize, hfield]
  omega

lemma read_within {f x : List UInt8} (h : raw.read 0 size = f ++ x) {a n : Nat}
    (ha : a + n ≤ f.length) : raw.read a n = (f.drop a).take n := by
  rw [← Mem.read_part (Mem.read_first h) ha, zero_add]

lemma takeOff_frame {f x : List UInt8} (hsize : size < 2 ^ 31) (h : raw.read 0 size = f ++ x) :
    (takeOff raw size f.length).2 = x.length ∧
      (takeOff raw size f.length).1.read 0 x.length = x := by
  have hlen := Mem.length_of_read_append h
  have hrest : size - sizeTOfInt (f.length : Int) = x.length := by
    rw [sizeTOfInt_of_nonneg (by omega) (by omega)]
    omega
  have htail := Mem.read_rest h
  rw [zero_add] at htail
  simp only [takeOff, hrest]
  exact ⟨trivial, by rw [Mem.read_move, htail]⟩

lemma read_header_payload {f x : List UInt8} (hf : LengthPrefixed header o f)
    (h : raw.read 0 size = f ++ x) :
    raw.read 0 header = f.take header ∧
      raw.read header ((f.length : Int) - header).toNat = f.drop header := by
  have hle := hf.le_length
  have hpayload : ((f.length : Int) - header).toNat = f.length - header := by omega
  constructor
  · exact read_within (a := 0) h (by omega)
  · rw [hpayload, read_within h (by omega), ← List.length_drop, List.take_length]

end

lemma lengthPrefixed_frame {c : Int} {eight body : List UInt8} (height : eight.length = 8)
    (hc : c = body.length) (hsmall : c < 2 ^ 31) :
    LengthPrefixed 12 0 (intToFourChar c ++ (eight ++ body)) := by
  have hfield : lengthField 0 (intToFourChar c ++ (eight ++ body)) = c := by
    rw [lengthField, List.drop_zero, List.take_left' (length_intToFourChar c), beInt,
      intToFourChar_eq, List.reverse_reverse]
    exact signed_leValue_leBytes (k := 31) (by norm_num) (by omega) hsmall
  constructor
  · simp only [List.length_append, length_intToFourChar, height]
    omega
  · rw [hfield]
    simp only [List.length_append, length_intToFourChar, height]
    omega

lemma read_store (raw : Mem UInt8) (size : Nat) (chunk : List UInt8) :
    (raw.write size chunk).read 0 (size + chunk.length) = raw.read 0 size ++ chunk := by
  rw [Mem.read_add, Mem.read_write_before _ _ _ _ _ (by omega), zero_add,
    Mem.read_write_self _ _ _ _ rfl]

end MeshAgent.Proofs
