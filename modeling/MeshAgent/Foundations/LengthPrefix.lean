import MeshAgent.Foundations.Framing
import MeshAgent.Foundations.MachineInt

/-!
# Frames with a length field

A frame is a header of fixed size, in which four bytes hold the big-endian size of what
follows, and that many bytes.
-/

namespace MeshAgent.Foundations

/-- Big-endian bytes as a signed 32-bit number. -/
def beInt (bs : List UInt8) : Int := signed 32 (leValue bs.reverse)

/-- The length field at `o`. -/
def lengthField (o : Nat) (buf : List UInt8) : Int := beInt ((buf.drop o).take 4)

lemma lengthField_append {o : Nat} {p : List UInt8} (h : o + 4 ≤ p.length) (x : List UInt8) :
    lengthField o (p ++ x) = lengthField o p := by
  rw [lengthField, lengthField, List.drop_append_of_le_length (by omega),
    List.take_append_of_le_length (by rw [List.length_drop]; omega)]

/-- A frame: the length field counts what follows the header. -/
structure LengthPrefixed (header o : Nat) (f : List UInt8) : Prop where
  le_length : header ≤ f.length
  field : lengthField o f = f.length - header

/-- The frames with a length field at `o` that satisfy `P`. -/
def lengthCode (header o : Nat) (ho : o + 4 ≤ header) (P : List UInt8 → Prop) :
    FrameCode UInt8 where
  next buf :=
    if buf.length < header ∨ (buf.length : Int) < header + lengthField o buf then none
    else some (header + (lengthField o buf).toNat)
  IsFrame f := LengthPrefixed header o f ∧ P f
  next_nil := if_pos (.inl (by simp only [List.length_nil]; omega))
  next_append := by
    intro f x hf
    have hle := hf.1.le_length
    rw [lengthField_append (by omega), hf.1.field, List.length_append, if_neg (by omega)]
    congr 1
    omega
  next_incomplete := by
    intro p x hf hx
    have hpos : 0 < x.length := List.length_pos_iff.mpr hx
    by_cases hp : p.length < header
    · exact if_pos (.inl hp)
    · have hfield := hf.1.field
      rw [lengthField_append (by omega), List.length_append] at hfield
      exact if_pos (.inr (by omega))

section

variable {header o : Nat} {ho : o + 4 ≤ header} {P : List UInt8 → Prop} {buf : List UInt8}

lemma lengthCode_next_eq_none
    (h : (lengthCode header o ho P).next buf = none) :
    buf.length < header ∨ (buf.length : Int) < header + lengthField o buf := by
  by_contra hnot
  have hsome : (lengthCode header o ho P).next buf =
      some (header + (lengthField o buf).toNat) := if_neg hnot
  rw [hsome] at h
  exact absurd h (by simp)

end

end MeshAgent.Foundations
