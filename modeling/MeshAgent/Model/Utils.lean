import MeshAgent.Foundations.ByteMemory
import MeshAgent.Foundations.MachineInt

/-!
# `utils.c`: integers in byte buffers

A `char *` is a byte memory together with an offset into it. `int` and `int64_t` values
are integers in the range of their type.
-/

namespace MeshAgent.Model
open MeshAgent.Foundations

/-- The bytes of an ASCII string literal. -/
def ascii (s : List Char) : List UInt8 := s.map (fun c => UInt8.ofNat c.toNat)

/-- `char` is signed on the targets of the build. -/
def charVal (c : UInt8) : Int := signed 8 c.toNat

/-- `four_char_to_int`: four bytes, most significant first, as an `int`. -/
def fourCharToInt (length : Mem UInt8) (a : Int) : Int :=
  let byte := fun k : Int => (length (a + k)).toNat
  signed 32 ((byte 0 <<< 24 ||| byte 1 <<< 16 ||| byte 2 <<< 8 ||| byte 3 : Nat) : Int)

/-- `int_to_four_char`: each byte is `(char) ((integer >> s) & 0xFF)`. -/
def intToFourChar (integer : Int) : List UInt8 :=
  [UInt8.ofInt (integer >>> (24 : Nat)), UInt8.ofInt (integer >>> (16 : Nat)),
    UInt8.ofInt (integer >>> (8 : Nat)), UInt8.ofInt (integer >>> (0 : Nat))]

/-- `long_to_8bytes`: the object representation of an `int64_t`, little-endian. -/
def longTo8bytes (integer : Int) : List UInt8 := leBytes 8 integer

def bytes8ToLong (bytes : Mem UInt8) (a : Int) : Int := signed 64 (leValue (bytes.read a 8))

/-- `int_to_string`: one character below ten, two characters otherwise. -/
def intToString (num : Int) : List UInt8 :=
  if num < 10 then
    [UInt8.ofInt (num + 48)]
  else
    let newVal := num.tdiv 10
    [UInt8.ofInt (newVal + 48), UInt8.ofInt (num - newVal * 10 + 48)]

/-- The loop of `increase_long_by_one` with `n` bytes to go. -/
def increaseBytes (bytes : Mem UInt8) (a : Int) : Nat → Mem UInt8
  | 0 => bytes
  | n + 1 =>
    let byte := bytes a + 1
    let bytes := bytes.write a [byte]
    if byte ≠ 0 then bytes else increaseBytes bytes (a + 1) n

def increaseLongByOne (bytes : Mem UInt8) (a : Int) : Mem UInt8 := increaseBytes bytes a 8

/-- The size of `buffer` in `int10_to_str`. -/
def int10BufferSize : Int := 65

/-- The `while (val != 0)` of `int10_to_str`, at `p` of `buffer`. No result when `p` leaves the
array. -/
def int10Digits : Nat → Mem UInt8 → Int → Int → Option (Mem UInt8 × Int)
  | 0, _, _, _ => none
  | fuel + 1, buffer, p, val =>
    if val = 0 then some (buffer, p)
    else if p ≤ 0 then none
    else
      let newVal := val.tdiv 10
      int10Digits fuel (buffer.write (p - 1) [UInt8.ofInt (48 + (val - newVal * 10))]) (p - 1)
        newVal

/-- The copying loop of `int10_to_str`, with `dst` after the last increment. -/
def int10Copy (buffer : Mem UInt8) : Nat → Int → Mem UInt8 → Int → Option (Mem UInt8 × Int)
  | 0, _, _, _ => none
  | fuel + 1, p, dst, a =>
    if int10BufferSize ≤ p then none
    else
      let c := buffer p
      let dst := dst.write a [c]
      if c = 0 then some (dst, a + 1) else int10Copy buffer fuel (p + 1) dst (a + 1)

/-- `int10_to_str` to the offset `a` of `dst`, with the returned pointer; `buffer` holds unknown
bytes at first. -/
def int10ToStr (buffer : Mem UInt8) (val : Int) (dst : Mem UInt8) (a : Int) (radix : Int) :
    Option (Mem UInt8 × Int) := do
  let negative := radix < 0 ∧ val < 0
  let uval := if negative then unsigned 64 (0 - unsigned 64 val) else unsigned 64 val
  let (dst, a) := if negative then (dst.write a [45], a + 1) else (dst, a)
  let p := int10BufferSize - 1
  let buffer := buffer.write p [0]
  let newVal := signed 64 (uval / 10 : Nat)
  let buffer := buffer.write (p - 1) [UInt8.ofInt (48 + (uval - newVal * 10))]
  let (buffer, p) ← int10Digits int10BufferSize.toNat buffer (p - 1) newVal
  let (dst, a) ← int10Copy buffer int10BufferSize.toNat p dst a
  some (dst, a - 1)

@[simp] lemma length_intToFourChar (x : Int) : (intToFourChar x).length = 4 := rfl

@[simp] lemma length_longTo8bytes (x : Int) : (longTo8bytes x).length = 8 := by
  simp [longTo8bytes]

/-- `four_char_to_int` decodes big-endian. -/
lemma fourCharToInt_eq (m : Mem UInt8) (a : Int) :
    fourCharToInt m a = signed 32 (leValue (m.read a 4).reverse) := by
  have h0 := (m a).toNat_lt
  have h1 := (m (a + 1)).toNat_lt
  have h2 := (m (a + 2)).toNat_lt
  have h3 := (m (a + 3)).toNat_lt
  have hread : (m.read a 4).reverse = [m (a + 3), m (a + 2), m (a + 1), m a] := by
    simp only [Mem.read_succ, Mem.read_zero, List.reverse_cons, List.reverse_nil,
      List.nil_append, List.cons_append, add_assoc]
    norm_num
  have hor : ∀ a b k : Nat, b < 2 ^ k → a <<< k ||| b = a * 2 ^ k + b := by
    intro a b k hb
    rw [← Nat.shiftLeft_add_eq_or_of_lt hb, Nat.shiftLeft_eq]
  rw [hread, fourCharToInt]
  simp only [add_zero, Nat.or_assoc]
  rw [hor _ _ 8 (by omega), hor _ _ 16 (by omega), hor _ _ 24 (by omega)]
  congr 1
  simp only [leValue]
  push_cast
  ring

/-- `int_to_four_char` encodes big-endian. -/
lemma intToFourChar_eq (x : Int) : intToFourChar x = (leBytes 4 x).reverse := by
  have h1 : x >>> (8 : Nat) = x / 256 := by rw [Int.shiftRight_eq_div_pow]; norm_num
  have h2 : x >>> (16 : Nat) = x / 256 / 256 := by
    rw [Int.shiftRight_eq_div_pow, Int.ediv_ediv_of_nonneg (by omega)]; norm_num
  have h3 : x >>> (24 : Nat) = x / 256 / 256 / 256 := by
    rw [Int.shiftRight_eq_div_pow, Int.ediv_ediv_of_nonneg (by omega),
      Int.ediv_ediv_of_nonneg (by omega)]; norm_num
  simp only [intToFourChar, leBytes, h1, h2, h3, Int.shiftRight_zero, List.reverse_cons,
    List.reverse_nil, List.nil_append, List.cons_append]

/-- What `int_to_four_char` wrote, `four_char_to_int` reads. -/
theorem fourCharToInt_of_read {m : Mem UInt8} {a x : Int} (h : m.read a 4 = intToFourChar x)
    (hl : -2 ^ 31 ≤ x) (hr : x < 2 ^ 31) : fourCharToInt m a = x := by
  rw [fourCharToInt_eq, h, intToFourChar_eq, List.reverse_reverse]
  exact signed_leValue_leBytes (k := 31) (by norm_num) hl hr

end MeshAgent.Model
