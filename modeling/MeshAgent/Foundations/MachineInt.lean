import Mathlib.Algebra.Order.Ring.Int
import Mathlib.Tactic.Lemma
import Mathlib.Tactic.Ring

/-!
# Machine integers and their byte encodings

Two's complement reductions of an integer, and fixed-width little-endian byte
strings. Big-endian strings are reversed little-endian ones.
-/

namespace MeshAgent.Foundations

/-- The `w`-bit two's complement value of `x`: the top bit counts negatively. -/
def signed (w : Nat) (x : Int) : Int :=
  if x / 2 ^ (w - 1) % 2 = 0 then x % 2 ^ w else x % 2 ^ w - 2 ^ w

/-- The `w`-bit unsigned value of `x`. -/
def unsigned (w : Nat) (x : Int) : Nat := (x % 2 ^ w).toNat

lemma signed_eq_bmod (k : Nat) (x : Int) : signed (k + 1) x = Int.bmod x (2 ^ (k + 1)) := by
  have hp : (0 : Int) < 2 ^ k := Int.pow_pos (by omega)
  have hsucc : (2 : Int) ^ (k + 1) = 2 * 2 ^ k := by ring
  have hsplit : x % 2 ^ (k + 1) = x % 2 ^ k + 2 ^ k * (x / 2 ^ k % 2) := by
    have hcomm : (2 : Int) ^ (k + 1) = 2 ^ k * 2 := by ring
    rw [hcomm, Int.emod_def, Int.emod_def x (2 ^ k), Int.emod_def (x / 2 ^ k),
      Int.ediv_ediv_of_nonneg (by omega)]
    ring
  have hlow := Int.emod_lt_of_pos x hp
  have hlow' := Int.emod_nonneg x (show (2 : Int) ^ k ≠ 0 by omega)
  have hhalf : ((((2 ^ (k + 1) : Nat) : Int)) + 1) / 2 = 2 ^ k := by
    push_cast
    omega
  rw [signed, Int.bmod, Nat.add_sub_cancel]
  simp only [hhalf]
  push_cast
  rw [hsplit]
  rcases Int.emod_two_eq_zero_or_one (x / 2 ^ k) with h | h
  · rw [h, if_pos rfl, if_pos (by omega)]
  · rw [h, if_neg (by omega), if_neg (by omega)]

lemma signed_eq_self {k : Nat} {x : Int} (hl : -2 ^ k ≤ x) (hr : x < 2 ^ k) :
    signed (k + 1) x = x := by
  have hp : (2 : Int) ^ (k + 1) = 2 * 2 ^ k := by ring
  rw [signed_eq_bmod]
  apply Int.bmod_eq_of_le <;> push_cast <;> omega

lemma unsigned_eq_toNat {w : Nat} {x : Int} (hl : 0 ≤ x) (hr : x < 2 ^ w) :
    unsigned w x = x.toNat := by
  rw [unsigned, Int.emod_eq_of_lt hl hr]

lemma unsigned_of_neg {w : Nat} {x : Int} (hl : -2 ^ w ≤ x) (hr : x < 0) :
    (unsigned w x : Int) = x + 2 ^ w := by
  have hmod : x % 2 ^ w = x + 2 ^ w := by
    rw [← Int.add_emod_right, Int.emod_eq_of_lt (by omega) (by omega)]
  rw [unsigned, hmod]
  omega

lemma signed_emod (k : Nat) (x : Int) :
    signed (k + 1) (x % 2 ^ (k + 1)) = signed (k + 1) x := by
  have h := Int.emod_bmod x (2 ^ (k + 1))
  push_cast at h
  rw [signed_eq_bmod, signed_eq_bmod, h]

lemma signed_signed_add (k : Nat) (x y : Int) :
    signed (k + 1) (signed (k + 1) x + y) = signed (k + 1) (x + y) := by
  rw [signed_eq_bmod, signed_eq_bmod, signed_eq_bmod, Int.bmod_add_bmod]

lemma signed_lt (k : Nat) (x : Int) : signed (k + 1) x < 2 ^ k := by
  have hp : (2 : Int) ^ (k + 1) = 2 * 2 ^ k := by ring
  have h := Int.bmod_lt (x := x) (Nat.two_pow_pos (k + 1))
  push_cast at h
  rw [signed_eq_bmod]
  omega

lemma le_signed (k : Nat) (x : Int) : -2 ^ k ≤ signed (k + 1) x := by
  have hp : (2 : Int) ^ (k + 1) = 2 * 2 ^ k := by ring
  have h := Int.le_bmod (x := x) (Nat.two_pow_pos (k + 1))
  push_cast at h
  rw [signed_eq_bmod]
  omega

/-- The `n` low bytes of `x`, least significant first. -/
def leBytes : Nat → Int → List UInt8
  | 0, _ => []
  | n + 1, x => UInt8.ofInt x :: leBytes n (x / 256)

/-- The number whose bytes are given, least significant first. -/
def leValue : List UInt8 → Nat
  | [] => 0
  | b :: bs => b.toNat + 256 * leValue bs

@[simp] lemma length_leBytes (n : Nat) (x : Int) : (leBytes n x).length = n := by
  induction n generalizing x with
  | zero => rfl
  | succ n ih => simp [leBytes, ih]

lemma toNat_ofInt (x : Int) : ((UInt8.ofInt x).toNat : Int) = x % 256 := by
  have h : 0 ≤ x % 256 := Int.emod_nonneg x (by omega)
  simp [UInt8.ofInt, UInt8.toNat_ofNat', Int.toNat_of_nonneg h]

lemma ofInt_natCast (n : Nat) : UInt8.ofInt n = UInt8.ofNat n := by
  apply UInt8.toNat_inj.mp
  have h := toNat_ofInt n
  rw [UInt8.toNat_ofNat']
  omega

lemma leValue_leBytes (n : Nat) (x : Int) : (leValue (leBytes n x) : Int) = x % 256 ^ n := by
  induction n generalizing x with
  | zero => simp [leBytes, leValue]
  | succ n ih =>
    have hsplit : x % 256 ^ (n + 1) = x % 256 + 256 * (x / 256 % 256 ^ n) := by
      have hp : (256 : Int) ^ (n + 1) = 256 * 256 ^ n := by ring
      rw [hp, Int.emod_def, Int.emod_def, Int.emod_def (x / 256),
        Int.ediv_ediv_of_nonneg (by omega)]
      ring
    rw [leBytes, leValue, Nat.cast_add, Nat.cast_mul, ih, toNat_ofInt, hsplit]
    rfl

lemma signed_leValue_leBytes {n k : Nat} {x : Int} (hn : (256 : Int) ^ n = 2 ^ (k + 1))
    (hl : -2 ^ k ≤ x) (hr : x < 2 ^ k) : signed (k + 1) (leValue (leBytes n x)) = x := by
  rw [leValue_leBytes, hn, signed_emod, signed_eq_self hl hr]

/-- One more, with the carry running up to the first byte that does not wrap. -/
def leSucc : List UInt8 → List UInt8
  | [] => []
  | b :: bs => if b + 1 = 0 then (b + 1) :: leSucc bs else (b + 1) :: bs

@[simp] lemma length_leSucc (bs : List UInt8) : (leSucc bs).length = bs.length := by
  induction bs with
  | nil => rfl
  | cons b bs ih =>
    unfold leSucc
    split
    · rw [List.length_cons, List.length_cons, ih]
    · rw [List.length_cons, List.length_cons]

lemma leValue_lt (bs : List UInt8) : leValue bs < 256 ^ bs.length := by
  induction bs with
  | nil => simp [leValue]
  | cons b bs ih =>
    have hb : b.toNat < 256 := b.toNat_lt
    rw [leValue, List.length_cons, Nat.pow_succ]
    omega

lemma leValue_leSucc (bs : List UInt8) :
    leValue (leSucc bs) = (leValue bs + 1) % 256 ^ bs.length := by
  induction bs with
  | nil => simp [leSucc, leValue]
  | cons b bs ih =>
    have hb : b.toNat < 256 := b.toNat_lt
    have hbyte : (b + 1).toNat = (b.toNat + 1) % 256 := by simp [UInt8.toNat_add]
    have hpow : 256 ^ (b :: bs).length = 256 * 256 ^ bs.length := by
      rw [List.length_cons, Nat.pow_succ, Nat.mul_comm]
    unfold leSucc
    by_cases hwrap : b + 1 = 0
    · -- the byte was 255: its wrap is worth one more of the next byte
      have hzero : (b + 1).toNat = 0 := by rw [hwrap]; rfl
      have hmax : b.toNat = 255 := by omega
      have hcarry : leValue (b :: bs) + 1 = 256 * (leValue bs + 1) := by
        rw [leValue, hmax]
        omega
      rw [if_pos hwrap, leValue, hzero, ih, hcarry, hpow, Nat.mul_mod_mul_left, Nat.zero_add]
    · have hpos : (b + 1).toNat ≠ 0 := fun h => hwrap (UInt8.toNat_inj.mp h)
      have hlt : (b + 1).toNat + 256 * leValue bs < 256 ^ (b :: bs).length :=
        leValue_lt ((b + 1) :: bs)
      have hsum : leValue (b :: bs) + 1 = (b + 1).toNat + 256 * leValue bs := by
        rw [leValue]
        omega
      rw [if_neg hwrap, leValue, hsum, Nat.mod_eq_of_lt hlt]

/-- Counting `n` times adds `n`, modulo the number of byte strings of this length. -/
theorem leValue_leSucc_iterate (bs : List UInt8) (n : Nat) :
    leValue (leSucc^[n] bs) = (leValue bs + n) % 256 ^ bs.length := by
  have hlen : ∀ n, (leSucc^[n] bs).length = bs.length := by
    intro n
    induction n with
    | zero => rfl
    | succ n ih => rw [Function.iterate_succ_apply', length_leSucc, ih]
  induction n with
  | zero => rw [Function.iterate_zero_apply, Nat.add_zero, Nat.mod_eq_of_lt (leValue_lt bs)]
  | succ n ih =>
    rw [Function.iterate_succ_apply', leValue_leSucc, hlen, ih, Nat.mod_add_mod, Nat.add_assoc]

end MeshAgent.Foundations
