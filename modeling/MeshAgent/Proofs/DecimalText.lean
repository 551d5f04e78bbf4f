import MeshAgent.Foundations.CString
import MeshAgent.Model.Utils

/-!
# The decimal text of a number

`int10_to_str` collects the digits from the last one on at the end of a local array and copies
them. The smallest number has no positive counterpart, and is written like the others.
-/

namespace MeshAgent.Proofs
open MeshAgent.Foundations MeshAgent.Model

lemma digitByte_digitChar {d : Nat} (hd : d < 10) :
    digitByte (Nat.digitChar d) = UInt8.ofInt (48 + (d : Int)) := by
  have hcast : (48 + (d : Int)) = ((48 + d : Nat) : Int) := by push_cast; rfl
  rw [hcast, ofInt_natCast, digitByte, Nat.toNat_digitChar_of_lt_ten hd]

lemma decimal_of_lt {n : Nat} (hn : n < 10) : decimal n = [UInt8.ofInt (48 + (n : Int))] := by
  rw [decimal, Nat.toDigits_of_lt_base hn, List.map_singleton, digitByte_digitChar hn]

lemma decimal_of_le {n : Nat} (hn : 10 ≤ n) :
    decimal n = decimal (n / 10) ++ [UInt8.ofInt (48 + ((n % 10 : Nat) : Int))] := by
  rw [decimal, Nat.toDigits_of_base_le (by decide) hn, List.map_append, List.map_singleton,
    digitByte_digitChar (Nat.mod_lt n (by decide))]
  rfl

lemma length_decimal_le {n k : Nat} (hk : 0 < k) (hn : n < 10 ^ k) : (decimal n).length ≤ k := by
  rw [decimal, List.length_map]
  exact (Nat.length_toDigits_le_iff (by decide) hk).mpr hn

section

variable {buffer dst : Mem UInt8} {p a : Int}

lemma int10Digits_eq {fuel n : Nat} (hn : 0 < n) (hfuel : (decimal n).length < fuel)
    (hp : ((decimal n).length : Int) ≤ p) :
    int10Digits fuel buffer p n =
      some (buffer.write (p - (decimal n).length) (decimal n), p - (decimal n).length) := by
  induction fuel generalizing buffer p n with
  | zero => omega
  | succ fuel ih =>
    have hpos := List.length_pos_iff.mpr (decimal_ne_nil n)
    have hdiv : ((n : Int)).tdiv 10 = ((n / 10 : Nat) : Int) := by
      rw [Int.tdiv_eq_ediv_of_nonneg (by omega)]
      rfl
    have hmod : (n : Int) - ((n / 10 : Nat) : Int) * 10 = ((n % 10 : Nat) : Int) := by omega
    rw [int10Digits, if_neg (by omega), if_neg (by omega)]
    simp only [hdiv, hmod]
    by_cases hlast : n < 10
    · have hzero : n / 10 = 0 := by omega
      have hself : n % 10 = n := by omega
      rw [decimal_of_lt hlast] at hfuel ⊢
      rw [hzero, hself]
      cases fuel with
      | zero => simp at hfuel
      | succ fuel => simp [int10Digits]
    · have hsplit := decimal_of_le (Nat.le_of_not_lt hlast)
      have hlen : (decimal n).length = (decimal (n / 10)).length + 1 := by
        rw [hsplit, List.length_append, List.length_singleton]
      rw [ih (by omega) (by omega) (by omega), hsplit,
        Mem.write_write_front _ _ _ _ _ (by omega), ← hsplit, hlen]
      congr 2
      · congr 1
        push_cast
        omega
      · push_cast
        omega

lemma int10Copy_eq {text : List UInt8} {fuel : Nat}
    (htext : buffer.read p (text.length + 1) = text ++ [0]) (hne : 0 ∉ text)
    (hfuel : text.length < fuel) (hp : p + text.length < int10BufferSize) :
    int10Copy buffer fuel p dst a =
      some (dst.write a (text ++ [0]), a + text.length + 1) := by
  induction text generalizing fuel p dst a with
  | nil =>
    cases fuel with
    | zero => simp at hfuel
    | succ fuel =>
      have hcell : buffer p = 0 := by simpa [Mem.read_succ] using htext
      rw [int10Copy, if_neg (by simp at hp; omega)]
      simp [hcell]
  | cons c text ih =>
    cases fuel with
    | zero => simp at hfuel
    | succ fuel =>
      rw [List.length_cons, Mem.read_succ, List.cons_append, List.cons.injEq] at htext
      obtain ⟨hcell, hrest⟩ := htext
      rw [List.mem_cons, not_or] at hne
      rw [List.length_cons] at hfuel hp
      push_cast at hp
      rw [int10Copy, if_neg (by omega)]
      simp only [hcell]
      rw [if_neg (Ne.symm hne.1), ih hrest hne.2 (by omega) (by omega),
        Mem.write_write_append _ _ _ _ _ (by simp)]
      have hend : a + 1 + text.length + 1 = a + (c :: text).length + 1 := by
        rw [List.length_cons]
        push_cast
        omega
      rw [hend]
      rfl

lemma int10Digits_all {n : Nat} (hn : n < 2 ^ 64) :
    int10Digits int10BufferSize.toNat
        ((buffer.write 64 [0]).write 63 [UInt8.ofInt (48 + ((n % 10 : Nat) : Int))]) 63
        (n / 10 : Nat) =
      some (buffer.write (64 - (decimal n).length) (decimal n ++ [0]),
        (64 - (decimal n).length : Int)) := by
  have hsize : int10BufferSize.toNat = 65 := rfl
  rw [hsize, Mem.write_write_front _ _ _ _ _ (by simp)]
  by_cases hlast : n < 10
  · have hzero : n / 10 = 0 := by omega
    have hself : n % 10 = n := by omega
    rw [decimal_of_lt hlast, hzero, hself]
    simp [int10Digits]
  · have hsplit := decimal_of_le (Nat.le_of_not_lt hlast)
    have hlen : (decimal n).length = (decimal (n / 10)).length + 1 := by
      rw [hsplit, List.length_append, List.length_singleton]
    have hle : (decimal (n / 10)).length ≤ 20 := length_decimal_le (by decide) (by omega)
    have hstart : (63 : Int) - (decimal (n / 10)).length = 64 - (decimal n).length := by
      rw [hlen]
      push_cast
      omega
    rw [int10Digits_eq (by omega) (by omega) (by omega),
      Mem.write_write_front _ _ _ _ _ (by omega), ← List.append_assoc, ← hsplit, hstart]

variable (buffer dst a) in
lemma int10_magnitude {n : Nat} (hn : n < 2 ^ 64) :
    (do
      let newVal := signed 64 (n / 10 : Nat)
      let buffer := (buffer.write 64 [0]).write 63 [UInt8.ofInt (48 + (n - newVal * 10))]
      let (buffer, p) ← int10Digits int10BufferSize.toNat buffer 63 newVal
      let (dst, a) ← int10Copy buffer int10BufferSize.toNat p dst a
      some (dst, a - 1)) =
    some (dst.write a (decimal n ++ [0]), a + (decimal n).length) := by
  have hlen : (decimal n).length ≤ 20 := length_decimal_le (by decide) (by omega)
  have hsigned : signed 64 (n / 10 : Nat) = (n / 10 : Nat) :=
    signed_eq_self (k := 63) (by omega) (by omega)
  have hmod : (n : Int) - ((n / 10 : Nat) : Int) * 10 = ((n % 10 : Nat) : Int) := by omega
  have hzero : (0 : UInt8) ∉ decimal n := fun h => absurd (decimal_digits n 0 h).1 (by decide)
  have hsize : int10BufferSize = 65 := rfl
  have hcopy : int10Copy (buffer.write (64 - (decimal n).length) (decimal n ++ [0]))
      int10BufferSize.toNat (64 - (decimal n).length) dst a =
        some (dst.write a (decimal n ++ [0]), a + (decimal n).length + 1) :=
    int10Copy_eq (Mem.read_write_self _ _ _ _ (by simp)) hzero (by rw [hsize]; omega)
      (by rw [hsize]; omega)
  simp only [hsigned, hmod, int10Digits_all hn, Option.bind_eq_bind, Option.bind_some, hcopy]
  congr 2
  omega

end

section

variable {val : Int}

/-- `0 - uval` is right for the smallest number, too. -/
lemma unsigned_negated (hl : -2 ^ 63 ≤ val) (hneg : val < 0) :
    unsigned 64 (0 - unsigned 64 val) = (-val).toNat := by
  have hfirst := unsigned_of_neg (w := 64) (show -2 ^ 64 ≤ val by omega) hneg
  have hsecond := unsigned_of_neg (w := 64) (x := 0 - unsigned 64 val) (by omega) (by omega)
  omega

/-- The text that `int10_to_str` writes. -/
def int10Text (val radix : Int) : List UInt8 :=
  if radix < 0 then formatInt val else decimal (unsigned 64 val)

/-- `int10_to_str` writes the decimal text of every 64-bit number, taken as a signed number if
the radix is negative and as an unsigned one if not, and a terminator; it returns the pointer to
the terminator, and never leaves its local array. The text has at most 20 characters. -/
theorem int10ToStr_text (buffer : Mem UInt8) (val : Int) (hl : -2 ^ 63 ≤ val) (hr : val < 2 ^ 63)
    (dst : Mem UInt8) (a radix : Int) :
    int10ToStr buffer val dst a radix =
        some (dst.write a (int10Text val radix ++ [0]), a + (int10Text val radix).length) ∧
      (int10Text val radix).length ≤ 20 := by
  by_cases hneg : radix < 0 ∧ val < 0
  · have htext : int10Text val radix = 45 :: decimal (-val).toNat := by
      rw [int10Text, if_pos hneg.1, formatInt, if_pos hneg.2]
    have hlen : (decimal (-val).toNat).length ≤ 19 := length_decimal_le (by decide) (by omega)
    have hrun := int10_magnitude buffer (dst.write a [45]) (a + 1)
      (show (-val).toNat < 2 ^ 64 by omega)
    rw [Mem.write_write_append _ _ _ _ _ (by simp), ← unsigned_negated hl hneg.2] at hrun
    refine ⟨?_, by rw [htext, List.length_cons]; omega⟩
    rw [int10ToStr]
    simp only [hneg, and_self, if_true]
    apply Eq.trans hrun
    rw [htext, unsigned_negated hl hneg.2, List.length_cons, List.singleton_append]
    congr 2
    push_cast
    omega
  · have htext : int10Text val radix = decimal (unsigned 64 val) := by
      rw [int10Text]
      split
      · next hradix =>
        have hnonneg : 0 ≤ val := Int.not_lt.mp fun hval => hneg ⟨hradix, hval⟩
        rw [formatInt, if_neg (by omega), unsigned_eq_toNat hnonneg (by omega)]
      · rfl
    have hbound : unsigned 64 val < 2 ^ 64 := by
      have := Int.emod_lt_of_pos val (show (0 : Int) < 2 ^ 64 by omega)
      rw [unsigned]
      omega
    have hlen : (decimal (unsigned 64 val)).length ≤ 20 :=
      length_decimal_le (by decide) (by omega)
    refine ⟨?_, by rw [htext]; exact hlen⟩
    rw [int10ToStr]
    simp only [hneg, if_false]
    rw [htext]
    exact int10_magnitude buffer dst a hbound

/-- The smallest number. -/
theorem int10ToStr_text_smallest :
    -2 ^ 63 ≤ (-9223372036854775808 : Int) ∧ (-9223372036854775808 : Int) < 2 ^ 63 ∧
      (int10ToStr (fun _ => 0) (-9223372036854775808) (fun _ => 0) 0 (-10) =
          some (Mem.write (fun _ => 0) 0 (int10Text (-9223372036854775808) (-10) ++ [0]),
            0 + ((int10Text (-9223372036854775808) (-10)).length : Int)) ∧
        (int10Text (-9223372036854775808) (-10)).length ≤ 20) ∧
      int10Text (-9223372036854775808) (-10) =
        [45, 57, 50, 50, 51, 51, 55, 50, 48, 51, 54, 56, 53, 52, 55, 55, 53, 56, 48, 56] :=
  ⟨by omega, by omega,
    int10ToStr_text _ (-9223372036854775808) (by omega) (by omega) _ _ _, by decide⟩

end

end MeshAgent.Proofs
