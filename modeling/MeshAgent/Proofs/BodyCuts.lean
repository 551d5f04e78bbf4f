import Mathlib.Order.Bounds.Basic
import MeshAgent.Proofs.Splitter

/-!
# Where a body is cut, whatever it holds

On a body that is no form the scans look behind its end, and their index, a `short`, can wrap.
`Cuts` says where they stop by the bytes that they look at.
-/

namespace MeshAgent.Proofs
open MeshAgent.Foundations MeshAgent.Model

/-- The place that a scan from `i` on looks at after `k` bytes. The index of `serial_split` counts
the bytes, that of the vector paths the blocks of 16. -/
def lookedAt (b : Build) (i : Int) (k : Nat) : Int :=
  if b = .plain then toShort (i + k)
  else toShort (i + (16 * (k / 16) : Nat)) + (k % 16 : Nat)

/-- After `k` bytes the scan for `=` from `i` on is at one. -/
def EqAfter (b : Build) (m : Mem UInt8) (str i : Int) (k : Nat) : Prop :=
  m (str + lookedAt b i k) = 61

/-- After `k` bytes the scan for `&` from `i` on is at one, or at or behind the end, which the
vector paths notice only when they have done with a block. -/
def AmpAfter (b : Build) (m : Mem UInt8) (str len i : Int) (k : Nat) : Prop :=
  m (str + lookedAt b i k) = 38 ∨ len ≤ toShort (i + k) ∧ (b ≠ .plain → 0 < k ∧ 16 ∣ k)

/-- The scan for `=` from `i` on stops with the index `e`. -/
def NextEq (b : Build) (m : Mem UInt8) (str i e : Int) : Prop :=
  ∃ k : Nat, IsLeast {k | EqAfter b m str i k} k ∧ e = toShort (i + k)

/-- The scan for `&` from `i` on stops with the index `s`. -/
def NextAmp (b : Build) (m : Mem UInt8) (str len i s : Int) : Prop :=
  ∃ k : Nat, IsLeast {k | AmpAfter b m str len i k} k ∧ s = toShort (i + k)

/-- The splitter is done when the scan for `&` stops here. -/
def EndsAt (b : Build) (len s : Int) : Prop :=
  if b = .plain then s = len else len ≤ s

/-- The offsets that are stored from the stop `i` on. -/
inductive Cuts (b : Build) (m : Mem UInt8) (str len : Int) : Int → List Int → Prop
  | last {i e s : Int} : NextEq b m str i e → NextAmp b m str len e s → EndsAt b len s →
      Cuts b m str len i [e, len]
  | more {i e s : Int} {rest : List Int} : NextEq b m str i e → NextAmp b m str len e s →
      ¬ EndsAt b len s → Cuts b m str len s rest → Cuts b m str len i (e :: s :: rest)

section Least

variable {S : Set Nat} {w k p : Nat}

lemma isLeast_add_iff (h : ∀ j < w, j ∉ S) : IsLeast S (k + w) ↔ IsLeast {j | j + w ∈ S} k := by
  refine and_congr Iff.rfl ⟨fun hleast j hj => ?_, fun hleast j hj => ?_⟩
  · have := hleast hj
    omega
  · by_contra hlt
    by_cases hjw : j < w
    · exact h j hjw hj
    · have hmem : j - w + w ∈ S := by rwa [Nat.sub_add_cancel (by omega)]
      have := hleast hmem
      omega

lemma le_of_isLeast (h : ∀ j < w, j ∉ S) (hk : IsLeast S k) : w ≤ k := by
  by_contra hlt
  exact h k (by omega) hk.1

lemma lt_of_isLeast_of_period {a : Nat} (hp : 0 < p) (h : ∀ j, a ≤ j → j + p ∈ S → j ∈ S)
    (hk : IsLeast S k) : k < a + p := by
  by_contra hlt
  have hmem : k - p + p ∈ S := by
    rw [Nat.sub_add_cancel (by omega)]
    exact hk.1
  have := hk.2 (h (k - p) (by omega) hmem)
  omega

end Least

lemma toShort_add (i x : Int) : toShort (toShort i + x) = toShort (i + x) :=
  signed_signed_add 15 i x

lemma toShort_toShort (i : Int) : toShort (toShort i) = toShort i := by
  have h := toShort_add i 0
  rwa [add_zero, add_zero] at h

lemma toShort_add_cycle (i : Int) : toShort (i + 65536) = toShort i := by
  rw [toShort, toShort, signed_eq_bmod 15, signed_eq_bmod 15]
  exact Int.add_bmod_right i _

section ByBytes

variable {f : Nat → Int → Option Int} {P : Int → Prop} [DecidablePred P] {i e : Int}

omit [DecidablePred P] in
lemma isLeast_byBytes_succ {k : Nat} (hi : toShort i = i) (h : ¬ P i) :
    IsLeast {k : Nat | P (toShort (i + k))} (k + 1) ↔
      IsLeast {k : Nat | P (toShort (toShort (i + 1) + k))} k := by
  rw [isLeast_add_iff (fun j hj => ?_)]
  · simp only [Set.mem_ofPred_eq, Nat.cast_add, Nat.cast_one, toShort_add, add_assoc,
      add_comm (1 : Int)]
  · obtain rfl : j = 0 := by omega
    simpa [hi] using h

lemma stop_of_byBytes (hzero : ∀ i, f 0 i = none)
    (hsucc : ∀ fuel i, f (fuel + 1) i = if P i then some i else f fuel (toShort (i + 1)))
    (fuel : Nat) (hi : toShort i = i) (h : f fuel i = some e) :
    ∃ k : Nat, IsLeast {k : Nat | P (toShort (i + k))} k ∧ e = toShort (i + k) := by
  induction fuel generalizing i with
  | zero => exact absurd (hzero i ▸ h) (by simp)
  | succ fuel ih =>
    rw [hsucc] at h
    by_cases hstop : P i
    · rw [if_pos hstop] at h
      cases h
      exact ⟨0, ⟨by simpa [hi] using hstop, fun _ _ => Nat.zero_le _⟩, by simpa using hi.symm⟩
    · rw [if_neg hstop] at h
      obtain ⟨k, hk, rfl⟩ := ih (toShort_toShort _) h
      refine ⟨k + 1, (isLeast_byBytes_succ hi hstop).mpr hk, ?_⟩
      rw [toShort_add, Nat.cast_add, Nat.cast_one, add_assoc, add_comm (k : Int)]

lemma byBytes_of_stop
    (hsucc : ∀ fuel i, f (fuel + 1) i = if P i then some i else f fuel (toShort (i + 1)))
    (fuel : Nat) (hi : toShort i = i) {k : Nat} (hk : IsLeast {k : Nat | P (toShort (i + k))} k)
    (hfuel : k < fuel) : f fuel i = some (toShort (i + k)) := by
  induction fuel generalizing i k with
  | zero => omega
  | succ fuel ih =>
    rw [hsucc]
    by_cases hstop : P i
    · have hzero : k ≤ 0 := hk.2 (by simpa [hi] using hstop)
      obtain rfl : k = 0 := by omega
      rw [if_pos hstop, Nat.cast_zero, add_zero, hi]
    · have hpos : 1 ≤ k := le_of_isLeast (fun j hj => by
        obtain rfl : j = 0 := by omega
        simpa [hi] using hstop) hk
      obtain ⟨k, rfl⟩ : ∃ j, k = j + 1 := ⟨k - 1, by omega⟩
      rw [if_neg hstop, ih (toShort_toShort _) ((isLeast_byBytes_succ hi hstop).mp hk) (by omega),
        toShort_add, Nat.cast_add, Nat.cast_one, add_assoc, add_comm (k : Int)]

/-- A scan that has not stopped when its index is back where it was does not stop. -/
theorem byBytes_iff (hzero : ∀ i, f 0 i = none)
    (hsucc : ∀ fuel i, f (fuel + 1) i = if P i then some i else f fuel (toShort (i + 1)))
    (hi : toShort i = i) :
    f shortCycle i = some e ↔
      ∃ k : Nat, IsLeast {k : Nat | P (toShort (i + k))} k ∧ e = toShort (i + k) := by
  constructor
  · exact stop_of_byBytes hzero hsucc shortCycle hi
  · rintro ⟨k, hk, rfl⟩
    have hcycle : k < 0 + 65536 := by
      refine lt_of_isLeast_of_period (by decide) (fun j _ hj => ?_) hk
      simpa [← add_assoc, toShort_add_cycle] using hj
    exact byBytes_of_stop hsucc shortCycle hi hk (by unfold shortCycle; omega)

end ByBytes

section ByBlocks

variable {tzcnt : Nat → Nat} {m : Mem UInt8} {str : Int} {c : UInt8} {last : Int → Bool}
  {i e : Int}

/-- After `k` bytes the scan by blocks is at a `c`, or it is given up behind a block. -/
def BlockStop (m : Mem UInt8) (str : Int) (c : UInt8) (last : Int → Bool) (i : Int) (k : Nat) :
    Prop :=
  m (str + (toShort (i + (16 * (k / 16) : Nat)) + (k % 16 : Nat))) = c ∨
    last (toShort (i + k)) = true ∧ 0 < k ∧ 16 ∣ k

lemma blockStop_of_lt (hi : toShort i = i) {k : Nat} (hk : k < 16) :
    BlockStop m str c last i k ↔ m (str + (i + k)) = c := by
  have hdiv : k / 16 = 0 := by omega
  have hmod : k % 16 = k := by omega
  have hnot : ¬ (last (toShort (i + k)) = true ∧ 0 < k ∧ 16 ∣ k) := by
    rintro ⟨-, hpos, hdvd⟩
    exact absurd (Nat.le_of_dvd hpos hdvd) (by omega)
  rw [BlockStop, hdiv, hmod, or_iff_left hnot, Nat.mul_zero, Nat.cast_zero, add_zero, hi]

lemma blockStop_add (h : last (toShort (i + 16)) = false) (k : Nat) :
    BlockStop m str c last i (k + 16) ↔ BlockStop m str c last (toShort (i + 16)) k := by
  have hdiv : (k + 16) / 16 = k / 16 + 1 := by omega
  have hmod : (k + 16) % 16 = k % 16 := by omega
  have hlane : i + (16 * (k / 16 + 1) : Nat) = i + 16 + (16 * (k / 16) : Nat) := by
    push_cast
    ring
  have hindex : i + (k + 16 : Nat) = i + 16 + k := by
    push_cast
    ring
  rw [BlockStop, BlockStop, hdiv, hmod, hlane, hindex, toShort_add, toShort_add]
  refine or_congr Iff.rfl (and_congr_right fun hlast => ?_)
  by_cases hk : k = 0
  · subst hk
    rw [Nat.cast_zero, add_zero, h] at hlast
    exact absurd hlast (by simp)
  · omega

lemma blockStop_add_cycle {k : Nat} (hk : 0 < k) :
    BlockStop m str c last i (k + 65536) ↔ BlockStop m str c last i k := by
  have hdiv : 16 * ((k + 65536) / 16) = 16 * (k / 16) + 65536 := by omega
  have hmod : (k + 65536) % 16 = k % 16 := by omega
  have hdvd : 16 ∣ k + 65536 ↔ 16 ∣ k := by omega
  have hcast : ∀ n : Nat, i + ((n + 65536 : Nat) : Int) = i + n + 65536 := by
    intro n
    push_cast
    ring
  simp only [BlockStop, hdiv, hmod, hdvd, hcast, toShort_add_cycle, hk, Nat.add_pos_left hk]

lemma stop_of_simdSeek (htz : LaneCount tzcnt) (fuel : Nat) (hi : toShort i = i)
    (h : simdSeek tzcnt toShort m str c last fuel i = some e) :
    ∃ k : Nat, IsLeast {k | BlockStop m str c last i k} k ∧ e = toShort (i + k) := by
  induction fuel generalizing i with
  | zero => exact absurd h (by simp [simdSeek])
  | succ fuel ih =>
    by_cases hex : ∃ d : Nat, d < 16 ∧ m (str + (i + d)) = c
    · obtain ⟨d, hd, hit, hmin⟩ := exists_first_lane hex
      rw [simdSeek_hit htz d hd hit hmin] at h
      cases h
      refine ⟨d, ⟨(blockStop_of_lt hi hd).mpr hit, fun j hj => ?_⟩, rfl⟩
      by_contra hlt
      exact hmin j (by omega) ((blockStop_of_lt hi (by omega)).mp hj)
    · push Not at hex
      have hfree : ∀ j < 16, j ∉ {k | BlockStop m str c last i k} :=
        fun j hj hstop => hex j hj ((blockStop_of_lt hi hj).mp hstop)
      rw [simdSeek_miss hex] at h
      cases hlast : last (toShort (i + 16)) with
      | true =>
        rw [if_pos hlast] at h
        cases h
        exact ⟨16, ⟨.inr ⟨hlast, by decide, by decide⟩,
          fun j hj => le_of_not_gt fun hlt => hfree j hlt hj⟩, rfl⟩
      | false =>
        rw [if_neg (by simp [hlast])] at h
        obtain ⟨k, hk, rfl⟩ := ih (toShort_toShort _) h
        refine ⟨k + 16, (isLeast_add_iff hfree).mpr ?_, ?_⟩
        · simpa only [Set.mem_ofPred_eq, blockStop_add hlast] using hk
        · rw [toShort_add, Nat.cast_add, add_assoc, add_comm (k : Int)]
          rfl

lemma simdSeek_of_stop (htz : LaneCount tzcnt) (fuel : Nat) (hi : toShort i = i) {k : Nat}
    (hk : IsLeast {k | BlockStop m str c last i k} k) (hfuel : k < 16 * fuel) :
    simdSeek tzcnt toShort m str c last fuel i = some (toShort (i + k)) := by
  induction fuel generalizing i k with
  | zero => omega
  | succ fuel ih =>
    by_cases hnear : k < 16
    · refine simdSeek_hit htz k hnear ((blockStop_of_lt hi hnear).mp hk.1) (fun j hj hc => ?_) fuel
      have := hk.2 ((blockStop_of_lt hi (by omega)).mpr hc)
      omega
    · have hmiss : ∀ j : Nat, j < 16 → m (str + (i + j)) ≠ c := by
        intro j hj hc
        have := hk.2 ((blockStop_of_lt hi hj).mpr hc)
        omega
      have hfree : ∀ j < 16, j ∉ {k | BlockStop m str c last i k} :=
        fun j hj hstop => hmiss j hj ((blockStop_of_lt hi hj).mp hstop)
      obtain ⟨k, rfl⟩ : ∃ j, k = j + 16 := ⟨k - 16, by omega⟩
      rw [simdSeek_miss hmiss]
      cases hlast : last (toShort (i + 16)) with
      | true =>
        have hle : k + 16 ≤ 16 := hk.2 (.inr ⟨hlast, by decide, by decide⟩)
        obtain rfl : k = 0 := by omega
        rw [if_pos rfl]
        rfl
      | false =>
        have hrest := (isLeast_add_iff hfree).mp hk
        simp only [Set.mem_ofPred_eq, blockStop_add hlast] at hrest
        rw [if_neg (by simp), ih (toShort_toShort _) hrest (by omega), toShort_add,
          Nat.cast_add, add_assoc, add_comm (k : Int)]
        rfl

theorem simdSeek_iff (m : Mem UInt8) (str : Int) (c : UInt8) (last : Int → Bool) (e : Int)
    (htz : LaneCount tzcnt) (hi : toShort i = i) :
    simdSeek tzcnt toShort m str c last shortCycle i = some e ↔
      ∃ k : Nat, IsLeast {k | BlockStop m str c last i k} k ∧ e = toShort (i + k) := by
  constructor
  · exact stop_of_simdSeek htz shortCycle hi
  · rintro ⟨k, hk, rfl⟩
    have hcycle : k < 1 + 65536 := by
      refine lt_of_isLeast_of_period (by decide) (fun j hpos hj => ?_) hk
      exact (blockStop_add_cycle hpos).mp hj
    exact simdSeek_of_stop htz shortCycle hi hk (by unfold shortCycle; omega)

end ByBlocks

/-! ### The splitters -/

section Splitters

variable {b : Build} {m : Mem UInt8} {str len : Int}

/-- The scans stop where `Cuts` says. -/
structure Scans.StopAt (scans : Scans) (b : Build) (m : Mem UInt8) (str len : Int) : Prop where
  seekEq : ∀ i e, toShort i = i → (scans.seekEq i = some e ↔ NextEq b m str i e)
  seekAmp : ∀ i s, toShort i = i → (scans.seekAmp i = some s ↔ NextAmp b m str len i s)
  done : ∀ s, scans.done s = true ↔ EndsAt b len s
  store : ∀ s, EndsAt b len s → scans.store s = len
  keep : ∀ s, ¬ EndsAt b len s → scans.store s = s

lemma serialScans_stopAt (m : Mem UInt8) (str len : Int) :
    (serialScans m str len).StopAt .plain m str len := by
  refine ⟨fun i e hi => ?_, fun i s hi => ?_, fun s => ?_, fun s h => ?_, fun s _ => rfl⟩
  · have h := byBytes_iff (f := serialSeekEq m str) (P := fun x => m (str + x) = 61) (e := e)
      (fun _ => rfl) (fun _ _ => rfl) hi
    simpa [serialScans, NextEq, EqAfter, lookedAt] using h
  · have hstop : ∀ fuel i, serialSeekAmp m str len (fuel + 1) i =
        if m (str + i) = 38 ∨ len ≤ i then some i
        else serialSeekAmp m str len fuel (toShort (i + 1)) := by
      intro fuel i
      rw [serialSeekAmp, ← ite_not]
      congr 1
      rw [not_and_or, not_lt, not_not, or_comm]
    have h := byBytes_iff (P := fun x => m (str + x) = 38 ∨ len ≤ x) (e := s) (fun _ => rfl)
      hstop hi
    simpa [serialScans, NextAmp, AmpAfter, lookedAt] using h
  · simp [serialScans, EndsAt]
  · simpa [serialScans, EndsAt] using h

lemma simdScans_stopAt (m : Mem UInt8) (str len : Int) {tzcnt : Nat → Nat} (htz : LaneCount tzcnt)
    (hb : b ≠ .plain) :
    (simdScans tzcnt m str len).StopAt b m str len := by
  refine ⟨fun i e hi => ?_, fun i s hi => ?_, fun s => by simp [simdScans, EndsAt, hb],
    fun s h => ?_, fun s h => ?_⟩
  · have h := simdSeek_iff m str 61 (fun _ => false) e htz hi
    simpa [simdScans, NextEq, EqAfter, lookedAt, BlockStop, hb] using h
  · have h := simdSeek_iff m str 38 (fun i => decide (len ≤ i)) s htz hi
    simpa [simdScans, NextAmp, AmpAfter, lookedAt, BlockStop, hb] using h
  · exact if_neg (Int.not_lt.mpr (by simpa [EndsAt, hb] using h))
  · exact if_pos (by simpa [EndsAt, hb] using h)

lemma NextEq.toShort_self {i e : Int} (h : NextEq b m str i e) : toShort e = e := by
  obtain ⟨k, -, rfl⟩ := h
  exact toShort_toShort _

lemma NextAmp.toShort_self {i s : Int} (h : NextAmp b m str len i s) : toShort s = s := by
  obtain ⟨k, -, rfl⟩ := h
  exact toShort_toShort _

/-- What a splitter stores behind `acc`, with a bound on the passes. -/
theorem Scans.StopAt.loop_iff {scans : Scans} (h : scans.StopAt b m str len) (fuel : Nat) {i : Int}
    (hi : toShort i = i) (acc off : List Int) :
    scans.loop fuel i acc = some off ↔
      ∃ rest, off = acc ++ rest ∧ Cuts b m str len i rest ∧ rest.length ≤ 2 * fuel := by
  constructor
  · intro hloop
    induction fuel generalizing i acc with
    | zero => exact absurd hloop (by simp [Scans.loop])
    | succ fuel ih =>
      simp only [Scans.loop, Option.bind_eq_bind, Option.bind_eq_some_iff] at hloop
      obtain ⟨e, hseekEq, s, hseekAmp, hrest⟩ := hloop
      have he := (h.seekEq i e hi).mp hseekEq
      have hs := (h.seekAmp e s he.toShort_self).mp hseekAmp
      by_cases hend : EndsAt b len s
      · rw [if_pos ((h.done s).mpr hend), h.store s hend, Option.some.injEq] at hrest
        exact ⟨[e, len], by rw [← hrest, List.append_assoc]; rfl, .last he hs hend, by simp⟩
      · rw [if_neg (fun hdone => hend ((h.done s).mp hdone)), h.keep s hend] at hrest
        obtain ⟨rest, rfl, hcuts, hlen⟩ := ih hs.toShort_self _ hrest
        exact ⟨e :: s :: rest, by simp, .more he hs hend hcuts, by simp; omega⟩
  · rintro ⟨rest, rfl, hcuts, hlen⟩
    induction hcuts generalizing fuel acc with
    | last he hs hend =>
      obtain ⟨fuel, rfl⟩ : ∃ k, fuel = k + 1 := ⟨fuel - 1, by simp at hlen; omega⟩
      simp only [Scans.loop, (h.seekEq _ _ hi).mpr he, (h.seekAmp _ _ he.toShort_self).mpr hs,
        Option.bind_eq_bind, Option.bind_some]
      rw [if_pos ((h.done _).mpr hend), h.store _ hend, List.append_assoc]
      rfl
    | more he hs hend _ ih =>
      obtain ⟨fuel, rfl⟩ : ∃ k, fuel = k + 1 := ⟨fuel - 1, by simp at hlen; omega⟩
      simp only [Scans.loop, (h.seekEq _ _ hi).mpr he, (h.seekAmp _ _ he.toShort_self).mpr hs,
        Option.bind_eq_bind, Option.bind_some]
      rw [if_neg (fun hdone => hend ((h.done _).mp hdone)), h.keep _ hend,
        ih fuel hs.toShort_self _ (by simp at hlen; omega), List.append_assoc, List.append_assoc]
      rfl

/-- The memory that the scans look at. -/
def splitMemory (b : Build) (m : Mem UInt8) (str len : Int) : Mem UInt8 :=
  if b = .plain then m else m.write (str + len) (List.replicate 16 0)

theorem simdSplitEfficient_iff {m' : Mem UInt8} {off' : List Int} :
    simdSplitEfficient b m str len = some (m', off') ↔
      m' = afterSplit b m str len ∧ ∃ off, off' = -1 :: off ∧
        Cuts b (splitMemory b m str len) str len 0 off ∧ off.length ≤ 2 * shortCycle := by
  have hzero : toShort 0 = 0 := by decide
  cases b with
  | plain =>
    have h := (serialScans_stopAt m str len).loop_iff shortCycle hzero [-1]
    simp only [simdSplitEfficient, serialSplit, serialSplitLoop_eq_loop, Option.map_eq_some_iff,
      h, afterSplit, splitMemory, Prod.mk.injEq]
    constructor
    · rintro ⟨_, hrest, rfl, rfl⟩
      exact ⟨rfl, hrest⟩
    · rintro ⟨rfl, hrest⟩
      exact ⟨off', hrest, rfl, rfl⟩
  | sse42 =>
    have h := (simdScans_stopAt (b := .sse42) (m.write (str + len) (List.replicate 16 0)) str len
      laneCount_usingPopcnt (by decide)).loop_iff shortCycle hzero [-1]
    simp only [simdSplitEfficient, sse4SplitEfficient, simdSplitLoop_eq_loop, Option.bind_eq_bind,
      Option.bind_eq_some_iff, h, afterSplit, splitMemory, Option.some.injEq, Prod.mk.injEq]
    rw [Mem.write_restore _ _ _ _ (by simp)]
    constructor
    · rintro ⟨off, hrest, rfl, rfl⟩
      exact ⟨rfl, hrest⟩
    · rintro ⟨rfl, hrest⟩
      exact ⟨off', hrest, rfl, rfl⟩
  | bmi =>
    have h := (simdScans_stopAt (b := .bmi) (m.write (str + len) (List.replicate 16 0)) str len
      laneCount_tzcntU32 (by decide)).loop_iff shortCycle hzero [-1]
    simp only [simdSplitEfficient, avxSplitEfficient, simdSplitLoop_eq_loop, Option.bind_eq_bind,
      Option.bind_eq_some_iff, h, afterSplit, splitMemory, Option.some.injEq, Prod.mk.injEq]
    constructor
    · rintro ⟨off, hrest, rfl, rfl⟩
      exact ⟨rfl, hrest⟩
    · rintro ⟨rfl, hrest⟩
      exact ⟨off', hrest, rfl, rfl⟩

end Splitters

end MeshAgent.Proofs
