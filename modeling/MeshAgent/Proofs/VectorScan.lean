import MeshAgent.Model.Tokenizer
import Mathlib.Tactic.IntervalCases
import Mathlib.Tactic.Linarith

/-!
# The vector scan loops

A pass looks at 16 lanes; the trailing-zero count of its mask is the first lane that
holds the wanted byte. Both lane counts, the instruction and its replacement by a
population count, agree on every 16-bit mask.
-/

namespace MeshAgent.Proofs
open MeshAgent.Foundations MeshAgent.Model

lemma movemask_cmpeq_cons (c b : UInt8) (v : List UInt8) :
    mmMovemaskEpi8 (mmCmpeqEpi8 c (b :: v)) =
      (if b = c then 1 else 0) + 2 * mmMovemaskEpi8 (mmCmpeqEpi8 c v) := by
  rw [mmCmpeqEpi8, List.map_cons, mmMovemaskEpi8, mmCmpeqEpi8]
  by_cases h : b = c <;> simp [h]

lemma movemask_lt (v : List UInt8) : mmMovemaskEpi8 v < 2 ^ v.length := by
  induction v with
  | nil => simp [mmMovemaskEpi8]
  | cons b v ih =>
    have hp : 2 ^ (v.length + 1) = 2 * 2 ^ v.length := by ring
    rw [mmMovemaskEpi8, List.length_cons, hp]
    split <;> omega

lemma movemask_eq_zero {c : UInt8} {v : List UInt8} (h : c ∉ v) :
    mmMovemaskEpi8 (mmCmpeqEpi8 c v) = 0 := by
  induction v with
  | nil => rfl
  | cons b v ih =>
    have hb : b ≠ c := fun hbc => h (by simp [hbc])
    rw [movemask_cmpeq_cons, if_neg hb, ih (fun hv => h (List.mem_cons_of_mem _ hv))]

lemma trailingZeros_movemask (c : UInt8) (ys zs : List UInt8) (n : Nat) (h : c ∉ ys)
    (hn : ys.length < n) :
    trailingZeros n (mmMovemaskEpi8 (mmCmpeqEpi8 c (ys ++ c :: zs))) = ys.length ∧
      0 < mmMovemaskEpi8 (mmCmpeqEpi8 c (ys ++ c :: zs)) := by
  induction ys generalizing n with
  | nil =>
    obtain ⟨n, rfl⟩ : ∃ k, n = k + 1 := ⟨n - 1, by omega⟩
    rw [List.nil_append, movemask_cmpeq_cons, if_pos rfl, trailingZeros, if_pos (by omega)]
    exact ⟨rfl, by omega⟩
  | cons b ys ih =>
    obtain ⟨n, rfl⟩ : ∃ k, n = k + 1 := ⟨n - 1, by omega⟩
    have hb : b ≠ c := fun hbc => h (by simp [hbc])
    obtain ⟨htz, hpos⟩ := ih n (fun hv => h (List.mem_cons_of_mem _ hv)) (by simpa using hn)
    rw [List.cons_append, movemask_cmpeq_cons, if_neg hb, Nat.zero_add, trailingZeros,
      if_neg (by omega), Nat.mul_div_cancel_left _ (by omega), htz, List.length_cons]
    exact ⟨by omega, by omega⟩

lemma trailingZeros_split (k n x : Nat) :
    trailingZeros (k + n) x =
      if x % 2 ^ k = 0 then k + trailingZeros n (x / 2 ^ k) else trailingZeros k (x % 2 ^ k) := by
  induction k generalizing x with
  | zero => simp [Nat.mod_one]
  | succ k ih =>
    have hsum : k + 1 + n = (k + n) + 1 := by omega
    have hmod : x % 2 ^ (k + 1) = x % 2 + 2 * (x / 2 % 2 ^ k) := by
      rw [pow_succ', Nat.mod_mul]
    have hdiv : x / 2 ^ (k + 1) = x / 2 / 2 ^ k := by
      rw [pow_succ', Nat.div_div_eq_div_mul]
    rw [hsum, trailingZeros, ih (x / 2), hmod, hdiv]
    by_cases hodd : x % 2 = 1
    · rw [if_pos hodd, if_neg (by omega), trailingZeros, if_pos (by omega)]
    · have hhalf : (x % 2 + 2 * (x / 2 % 2 ^ k)) / 2 = x / 2 % 2 ^ k := by omega
      by_cases hz : x / 2 % 2 ^ k = 0
      · rw [if_neg hodd, if_pos hz, if_pos (by omega)]
        omega
      · rw [if_neg hodd, if_neg hz, if_neg (by omega), trailingZeros, if_neg (by omega), hhalf]

/-- The population-count trick on one half of the mask. -/
lemma popcnt_half : ∀ h : Fin 256, h ≠ 0 →
    popcount 32 (mmMovemaskEpi8
      (([0x1, 0x3, 0x7, 0xf, 0x1f, 0x3f, 0x7f, 0xff].map (fun e => (h : Nat) &&& e)).flatMap
        (fun w => if w = 0 then [(0xff : UInt8), 0xff] else [0, 0]))) >>> 1 =
      trailingZeros 8 h := by
  decide +kernel

/-- A lane count for 16-bit masks. -/
def LaneCount (tzcnt : Nat → Nat) : Prop :=
  ∀ x, 0 < x → x < 65536 → tzcnt x = trailingZeros 16 x

lemma laneCount_tzcntU32 : LaneCount tzcntU32 := by
  intro x hpos hlt
  have h := trailingZeros_split 16 16 x
  rw [if_neg (by omega), Nat.mod_eq_of_lt (by omega)] at h
  exact h

lemma laneCount_usingPopcnt : LaneCount tzcntU32UsingPopcntCmpgt := by
  intro x hpos hlt
  have hlow : x &&& 0xff = x % 256 := Nat.and_two_pow_sub_one_eq_mod x 8
  have hhigh : (x >>> 8) &&& 0xff = x / 256 := by
    rw [Nat.shiftRight_eq_div_pow, show (0xff : Nat) = 2 ^ 8 - 1 from rfl,
      Nat.and_two_pow_sub_one_eq_mod]
    omega
  have hsplit := trailingZeros_split 8 8 x
  rw [tzcntU32UsingPopcntCmpgt]
  simp only [hlow, hhigh]
  by_cases hz : x % 256 = 0
  · have hhalf := popcnt_half ⟨x / 256, by omega⟩ (by simp only [ne_eq, Fin.ext_iff]; simp; omega)
    rw [if_pos (by simpa using hz)] at hsplit
    simp only [hz, if_true]
    rw [hhalf, hsplit]
    norm_num
  · have hhalf := popcnt_half ⟨x % 256, by omega⟩ (by simp only [ne_eq, Fin.ext_iff]; simp; omega)
    rw [if_neg (by simpa using hz)] at hsplit
    simp only [hz, if_false]
    rw [hhalf, hsplit, Nat.zero_add]
    norm_num

section Seek

variable {tzcnt : Nat → Nat} {wrap : Int → Int} {m : Mem UInt8} {str : Int} {c : UInt8}
  {last : Int → Bool} {i : Int}

lemma tzcnt_lanes (htz : LaneCount tzcnt) (d : Nat) (hd : d < 16) (hit : m (str + (i + d)) = c)
    (hfree : ∀ k : Nat, k < d → m (str + (i + k)) ≠ c) :
    0 < mmMovemaskEpi8 (mmCmpeqEpi8 c (mmLoaduSi128 m (str + i))) ∧
      tzcnt (mmMovemaskEpi8 (mmCmpeqEpi8 c (mmLoaduSi128 m (str + i)))) = d := by
  have hlanes : mmLoaduSi128 m (str + i) =
      m.read (str + i) d ++ c :: m.read (str + i + (d : Int) + 1) (15 - d) := by
    have h16 : 16 = d + ((15 - d) + 1) := by omega
    rw [mmLoaduSi128, h16, Mem.read_add, Mem.read_succ, add_assoc str i, hit]
  have hnot : c ∉ m.read (str + i) d := by
    intro hmem
    obtain ⟨k, hk, he⟩ := List.mem_iff_getElem.mp hmem
    rw [Mem.getElem_read, add_assoc] at he
    exact hfree k (by simpa using hk) he
  have hmask := movemask_lt (mmCmpeqEpi8 c (mmLoaduSi128 m (str + i)))
  obtain ⟨hcount, hpos⟩ := trailingZeros_movemask c (m.read (str + i) d)
    (m.read (str + i + (d : Int) + 1) (15 - d)) 16 hnot (by simpa using hd)
  rw [← hlanes] at hcount hpos
  have hlen : (mmCmpeqEpi8 c (mmLoaduSi128 m (str + i))).length = 16 := by
    simp [mmCmpeqEpi8, mmLoaduSi128]
  rw [hlen] at hmask
  refine ⟨hpos, ?_⟩
  rw [htz _ hpos hmask, hcount, Mem.length_read]

lemma mask_lanes_eq_zero (hfree : ∀ k : Nat, k < 16 → m (str + (i + k)) ≠ c) :
    mmMovemaskEpi8 (mmCmpeqEpi8 c (mmLoaduSi128 m (str + i))) = 0 := by
  apply movemask_eq_zero
  intro hmem
  obtain ⟨k, hk, he⟩ := List.mem_iff_getElem.mp hmem
  simp only [mmLoaduSi128, Mem.getElem_read, add_assoc] at he
  exact hfree k (by simpa [mmLoaduSi128] using hk) he

lemma exists_first_lane (h : ∃ d : Nat, d < 16 ∧ m (str + (i + d)) = c) :
    ∃ d : Nat, d < 16 ∧ m (str + (i + d)) = c ∧ ∀ k : Nat, k < d → m (str + (i + k)) ≠ c := by
  classical
  have hspec := Nat.find_spec h
  refine ⟨Nat.find h, hspec.1, hspec.2, fun k hk hc => ?_⟩
  exact Nat.find_min h hk ⟨by omega, hc⟩

lemma simdSeek_hit (htz : LaneCount tzcnt) (d : Nat) (hd : d < 16) (hit : m (str + (i + d)) = c)
    (hfree : ∀ k : Nat, k < d → m (str + (i + k)) ≠ c) (fuel : Nat) :
    simdSeek tzcnt wrap m str c last (fuel + 1) i = some (wrap (i + d)) := by
  obtain ⟨hpos, hcount⟩ := tzcnt_lanes htz d hd hit hfree
  rw [simdSeek]
  simp only [if_neg hpos.ne', hcount, hd, true_or, if_true]

lemma simdSeek_miss (hfree : ∀ k : Nat, k < 16 → m (str + (i + k)) ≠ c) (fuel : Nat) :
    simdSeek tzcnt wrap m str c last (fuel + 1) i =
      if last (wrap (i + 16)) = true then some (wrap (i + 16))
      else simdSeek tzcnt wrap m str c last fuel (wrap (i + 16)) := by
  rw [simdSeek]
  simp [mask_lanes_eq_zero hfree]

lemma simdSeek_first (htz : LaneCount tzcnt) {e : Int} (hie : i ≤ e) (hit : m (str + e) = c)
    (hfree : ∀ k, i ≤ k → k < e → m (str + k) ≠ c)
    (hwrap : ∀ x, i ≤ x → x ≤ e → wrap x = x) (fuel : Nat) (hfuel : (e - i).toNat < fuel) :
    simdSeek tzcnt wrap m str c (fun _ => false) fuel i = some e := by
  induction fuel generalizing i with
  | zero => omega
  | succ fuel ih =>
    by_cases hnear : e < i + 16
    · have hd : i + ((e - i).toNat : Int) = e := by omega
      rw [simdSeek_hit htz (e - i).toNat (by omega) (by rw [hd]; exact hit)
        (fun k hk => hfree _ (by omega) (by omega)), hd, hwrap e hie le_rfl]
    · rw [simdSeek_miss (fun k hk => hfree _ (by omega) (by omega)),
        hwrap (i + 16) (by omega) (by omega)]
      simp only [Bool.false_eq_true, if_false]
      exact ih (by omega) (fun k hk => hfree k (by omega)) (fun x hx => hwrap x (by omega))
        (by omega)

variable (wrap) in
/-- A scan that is given up at `fin` stops at the first occurrence before `fin`, or, if
there is none, somewhere at or after `fin`. -/
lemma simdSeek_until (htz : LaneCount tzcnt) {fin : Int} (hlt : i < fin)
    (hwrap : ∀ x, i ≤ x → x < fin + 16 → wrap x = x) (fuel : Nat)
    (hfuel : (fin - i).toNat < fuel) :
    ∃ j, simdSeek tzcnt wrap m str c (fun x => decide (fin ≤ x)) fuel i = some j ∧ i ≤ j ∧
      (∀ k, i ≤ k → k < j → k < fin → m (str + k) ≠ c) ∧ (j < fin → m (str + j) = c) := by
  induction fuel generalizing i with
  | zero => omega
  | succ fuel ih =>
    by_cases hex : ∃ d : Nat, d < 16 ∧ m (str + (i + d)) = c
    · obtain ⟨d, hd, hit, hmin⟩ := exists_first_lane hex
      refine ⟨i + (d : Int), ?_, by omega, ?_, fun _ => hit⟩
      · rw [simdSeek_hit htz d hd hit hmin, hwrap _ (by omega) (by omega)]
      · intro k hik hk _
        have hko : i + ((k - i).toNat : Int) = k := by omega
        have h := hmin (k - i).toNat (by omega)
        rwa [hko] at h
    · push Not at hex
      rw [simdSeek_miss hex, hwrap (i + 16) (by omega) (by omega)]
      have hwin : ∀ k, i ≤ k → k < i + 16 → m (str + k) ≠ c := by
        intro k hik hk
        have hko : i + ((k - i).toNat : Int) = k := by omega
        have h := hex (k - i).toNat (by omega)
        rwa [hko] at h
      by_cases hend : fin ≤ i + 16
      · exact ⟨i + 16, by simp [hend], by omega, fun k hik hk _ => hwin k hik hk,
          fun h => absurd h (by omega)⟩
      · obtain ⟨j, hj, hij, hfree, hhit⟩ :=
          ih (i := i + 16) (by omega) (fun x hx => hwrap x (by omega)) (by omega)
        refine ⟨j, by simpa [hend] using hj, by omega, ?_, hhit⟩
        intro k hik hk hkf
        by_cases hk16 : k < i + 16
        · exact hwin k hik hk16
        · exact hfree k (by omega) hk hkf

lemma simdSeekLoads_hit (htz : LaneCount tzcnt) (h : ∃ d : Nat, d < 16 ∧ m (str + (i + d)) = c)
    (fuel : Nat) : simdSeekLoads tzcnt wrap m str c last (fuel + 1) i = [i] := by
  obtain ⟨d, hd, hit, hfree⟩ := exists_first_lane h
  obtain ⟨hpos, hcount⟩ := tzcnt_lanes htz d hd hit hfree
  rw [simdSeekLoads]
  simp only [if_neg hpos.ne', hcount, hd, true_or, if_true]

lemma simdSeekLoads_miss (hfree : ∀ k : Nat, k < 16 → m (str + (i + k)) ≠ c) (fuel : Nat) :
    simdSeekLoads tzcnt wrap m str c last (fuel + 1) i =
      i :: if last (wrap (i + 16)) = true then []
        else simdSeekLoads tzcnt wrap m str c last fuel (wrap (i + 16)) := by
  rw [simdSeekLoads]
  simp [mask_lanes_eq_zero hfree]

lemma simdSeekLoads_until (htz : LaneCount tzcnt) {fin : Int} (hlt : i < fin)
    (hwrap : ∀ x, i ≤ x → x < fin + 16 → wrap x = x) (fuel : Nat) :
    ∀ x ∈ simdSeekLoads tzcnt wrap m str c (fun x => decide (fin ≤ x)) fuel i, i ≤ x ∧ x < fin := by
  induction fuel generalizing i with
  | zero => simp [simdSeekLoads]
  | succ fuel ih =>
    intro x hx
    by_cases hex : ∃ d : Nat, d < 16 ∧ m (str + (i + d)) = c
    · rw [simdSeekLoads_hit htz hex, List.mem_singleton] at hx
      omega
    · push Not at hex
      rw [simdSeekLoads_miss hex, hwrap (i + 16) (by omega) (by omega)] at hx
      rcases List.mem_cons.mp hx with rfl | hx
      · exact ⟨le_rfl, hlt⟩
      · by_cases hend : fin ≤ i + 16
        · simp [hend] at hx
        · have := ih (i := i + 16) (by omega) (fun x hx => hwrap x (by omega)) x
            (by simpa [hend] using hx)
          omega

lemma simdSeekLoads_first (htz : LaneCount tzcnt) {e : Int} (hie : i ≤ e) (hit : m (str + e) = c)
    (hwrap : ∀ x, i ≤ x → x ≤ e → wrap x = x) (fuel : Nat) :
    ∀ x ∈ simdSeekLoads tzcnt wrap m str c (fun _ => false) fuel i, i ≤ x ∧ x ≤ e := by
  induction fuel generalizing i with
  | zero => simp [simdSeekLoads]
  | succ fuel ih =>
    intro x hx
    by_cases hex : ∃ d : Nat, d < 16 ∧ m (str + (i + d)) = c
    · rw [simdSeekLoads_hit htz hex, List.mem_singleton] at hx
      omega
    · push Not at hex
      have hfar : i + 16 ≤ e := by
        by_contra hnear
        have hlane : i + ((e - i).toNat : Int) = e := by omega
        exact hex (e - i).toNat (by omega) (by rw [hlane, hit])
      rw [simdSeekLoads_miss hex, hwrap (i + 16) (by omega) (by omega)] at hx
      rcases List.mem_cons.mp hx with rfl | hx
      · exact ⟨le_rfl, hie⟩
      · have := ih (i := i + 16) (by omega) (fun x hx => hwrap x (by omega)) x (by simpa using hx)
        omega

end Seek

end MeshAgent.Proofs
