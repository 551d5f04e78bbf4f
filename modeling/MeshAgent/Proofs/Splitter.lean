import MeshAgent.Foundations.Scanning
import MeshAgent.Proofs.VectorScan

/-!
# The three splitters

`SplitOffsets` says which offsets a body has, in terms of its bytes alone. Each of the
three splitters computes them, so they agree and nothing behind the body matters.
-/

namespace MeshAgent.Proofs
open MeshAgent.Foundations MeshAgent.Model

/-- The offsets of `body` from the stop `i` on: the first `=` at or after `i`, the next
`&` or the end at or after that, and the same from there if it is not the end. -/
inductive SplitOffsets (body : List UInt8) : Nat → List Int → Prop
  | last {i e : Nat} : FirstAt body 61 i e → NextOrEnd body 38 e body.length →
      SplitOffsets body i [(e : Int), (body.length : Int)]
  | more {i e s : Nat} {rest : List Int} : FirstAt body 61 i e → NextOrEnd body 38 e s →
      s < body.length → SplitOffsets body s rest →
      SplitOffsets body i ((e : Int) :: (s : Int) :: rest)

/-- No `&` follows the last `=`. -/
def NoAmpAfterLastEq (body : List UInt8) : Prop :=
  ∀ pre post, body = pre ++ 61 :: post → 61 ∉ post → 38 ∉ post

lemma noAmpAfterLastEq_append (pre post : List UInt8) (heq : 61 ∉ post) (hamp : 38 ∉ post) :
    NoAmpAfterLastEq (pre ++ 61 :: post) := by
  intro pre' post' hbody heq'
  rcases List.append_eq_append_iff.mp hbody with ⟨_ | ⟨d, ds⟩, -, h⟩ | ⟨_ | ⟨d, ds⟩, -, h⟩
  · rwa [← (List.cons.inj h).2]
  · exact absurd (by simp [(List.cons.inj h).2]) heq
  · rwa [(List.cons.inj h).2]
  · exact absurd (by simp [(List.cons.inj h).2]) heq'

lemma value_lt {body : List UInt8} {e s : Nat} (he : body[e]? = some 61)
    (hs : NextOrEnd body 38 e s) : e < s := by
  have hle := hs.le
  have hlen := (List.getElem?_eq_some_iff.mp he).1
  have hne : e ≠ s := by
    rintro rfl
    have h := he.symm.trans (hs.hit hlen)
    simp at h
  omega

lemma stop_lt_of_amp {body : List UInt8} {i e s : Nat} (he : FirstAt body 61 i e)
    (hs : NextOrEnd body 38 e s) : i < s :=
  lt_of_le_of_lt he.le (value_lt he.hit hs)

/-- From the stop `i` the scans come to a stop that no `=` of the body follows. -/
inductive Overruns (body : List UInt8) : Nat → Prop
  | here {i : Nat} : (∀ k, i ≤ k → body[k]? ≠ some 61) → Overruns body i
  | more {i e s : Nat} : FirstAt body 61 i e → NextOrEnd body 38 e s → s < body.length →
      Overruns body s → Overruns body i

/-- A body either has offsets or is run past. -/
theorem splitOffsets_or_overruns (body : List UInt8) (i : Nat) :
    (∃ off, SplitOffsets body i off) ∨ Overruns body i := by
  obtain ⟨n, hn⟩ : ∃ n, n = body.length - i := ⟨_, rfl⟩
  induction n using Nat.strong_induction_on generalizing i with
  | _ n ih =>
    by_cases hex : ∃ q, i ≤ q ∧ body[q]? = some 61
    · obtain ⟨q, hiq, hq⟩ := hex
      obtain ⟨e, he, -⟩ := FirstAt.exists hiq hq
      obtain ⟨s, hs⟩ := NextOrEnd.exists body 38 he.lt_length.le
      have helen := he.lt_length
      by_cases hlt : s < body.length
      · have his := stop_lt_of_amp he hs
        rcases ih (body.length - s) (by omega) s rfl with ⟨rest, hrest⟩ | hover
        · exact .inl ⟨_, .more he hs hlt hrest⟩
        · exact .inr (.more he hs hlt hover)
      · have hend : s = body.length := by
          have := hs.le_length
          omega
        subst hend
        exact .inl ⟨_, .last he hs⟩
    · push Not at hex
      exact .inr (.here hex)

lemma not_overruns {body : List UInt8} {q : Nat} (hq : body[q]? = some 61)
    (hfree : ∀ k, q < k → body[k]? ≠ some 38) {i : Nat} (hi : i ≤ q) : ¬ Overruns body i := by
  intro hover
  induction hover with
  | here hnone => exact hnone q hi hq
  | @more i e s _ hs hlt _ ih =>
    apply ih
    by_contra hqs
    exact hfree s (by omega) (hs.hit hlt)

/-- A body with an `=` that no `&` follows has offsets from every stop before that `=`. -/
theorem exists_splitOffsets (body : List UInt8) (q : Nat) (hq : body[q]? = some 61)
    (hfree : ∀ k, q < k → body[k]? ≠ some 38) (i : Nat) (hi : i ≤ q) :
    ∃ off, SplitOffsets body i off :=
  (splitOffsets_or_overruns body i).resolve_right (not_overruns hq hfree hi)

lemma exists_splitOffsets_of_noAmp (body : List UInt8) (heq : 61 ∈ body)
    (hamp : NoAmpAfterLastEq body) : ∃ off, SplitOffsets body 0 off := by
  have hsplit : ∃ pre post, body = pre ++ 61 :: post ∧ 61 ∉ post := by
    have hrev : 61 ∈ body.reverse := List.mem_reverse.mpr heq
    obtain ⟨as, bs, hab, hnot⟩ := List.eq_append_cons_of_mem hrev
    refine ⟨bs.reverse, as.reverse, ?_, by simpa using hnot⟩
    rw [← List.reverse_reverse body, hab]
    simp
  obtain ⟨pre, post, rfl, hnot⟩ := hsplit
  have hpost := hamp pre post rfl hnot
  refine exists_splitOffsets _ pre.length (by simp) ?_ 0 (Nat.zero_le _)
  intro k hk hc
  rw [List.getElem?_append_right hk.le] at hc
  obtain ⟨d, hd⟩ : ∃ d, k - pre.length = d + 1 := ⟨k - pre.length - 1, by omega⟩
  rw [hd, List.getElem?_cons_succ] at hc
  exact hpost (List.mem_of_getElem? hc)

/-- The scan for `=`, the scan for `&`, what is stored of the second stop, and whether it is
the last one. -/
structure Scans where
  seekEq : Int → Option Int
  seekAmp : Int → Option Int
  store : Int → Int
  done : Int → Bool

/-- The loop that the three splitters share. -/
def Scans.loop (scans : Scans) : Nat → Int → List Int → Option (List Int)
  | 0, _, _ => none
  | fuel + 1, i, off => do
    let i ← scans.seekEq i
    let off := off ++ [i]
    let i ← scans.seekAmp i
    let off := off ++ [scans.store i]
    if scans.done i = true then some off else scans.loop fuel i off

/-- The scans stop where the bytes of the body say. -/
structure Scans.OnBody (scans : Scans) (body : List UInt8) : Prop where
  seekEq : ∀ i e : Nat, FirstAt body 61 i e → scans.seekEq i = some (e : Int)
  seekAmp : ∀ e s : Nat, e < body.length → NextOrEnd body 38 e s →
    ∃ j, scans.seekAmp e = some j ∧ scans.store j = s ∧
      (s < body.length → j = s ∧ scans.done j = false) ∧ (s = body.length → scans.done j = true)

theorem Scans.OnBody.loop_eq {scans : Scans} {body : List UInt8} (h : scans.OnBody body)
    {i : Nat} {off : List Int} (hoff : SplitOffsets body i off) (fuel : Nat)
    (hfuel : body.length - i < fuel) (acc : List Int) :
    scans.loop fuel i acc = some (acc ++ off) := by
  induction hoff generalizing fuel acc with
  | @last i e he hs =>
    obtain ⟨fuel, rfl⟩ : ∃ k, fuel = k + 1 := ⟨fuel - 1, by omega⟩
    obtain ⟨j, hj, hstore, -, hend⟩ := h.seekAmp _ _ he.lt_length hs
    simp only [Scans.loop, h.seekEq _ _ he, hj, Option.bind_eq_bind, Option.bind_some, hstore]
    rw [if_pos (hend rfl), List.append_assoc]
    rfl
  | @more i e s rest he hs hlt _ ih =>
    obtain ⟨fuel, rfl⟩ : ∃ k, fuel = k + 1 := ⟨fuel - 1, by omega⟩
    have his := stop_lt_of_amp he hs
    obtain ⟨j, hj, hstore, hstop, -⟩ := h.seekAmp _ _ he.lt_length hs
    obtain ⟨rfl, hdone⟩ := hstop hlt
    simp only [Scans.loop, h.seekEq _ _ he, hj, Option.bind_eq_bind, Option.bind_some, hstore]
    rw [if_neg (by simp [hdone]), ih _ (by omega), List.append_assoc, List.append_assoc]
    rfl

section InMemory

variable {m : Mem UInt8} {str : Int} {body : List UInt8}

lemma mem_of_getElem? (hm : m.read str body.length = body) {k : Nat} {c : UInt8}
    (h : body[k]? = some c) : m (str + k) = c := by
  obtain ⟨hk, hkc⟩ := List.getElem?_eq_some_iff.mp h
  rw [(Mem.read_eq_iff m str body).mp hm k hk, hkc]

lemma mem_ne_of_getElem? (hm : m.read str body.length = body) {k : Nat} {c : UInt8}
    (hk : k < body.length) (h : body[k]? ≠ some c) : m (str + k) ≠ c := by
  intro hc
  rw [(Mem.read_eq_iff m str body).mp hm k hk] at hc
  exact h (by rw [List.getElem?_eq_getElem hk, hc])

lemma mem_ne_of_free (hm : m.read str body.length = body) {c : UInt8} {i s : Nat}
    (hs : s ≤ body.length) (hfree : ∀ k, i ≤ k → k < s → body[k]? ≠ some c) :
    ∀ k : Int, (i : Int) ≤ k → k < s → m (str + k) ≠ c := by
  intro k hik hks
  obtain ⟨n, rfl⟩ := Int.eq_ofNat_of_zero_le (show 0 ≤ k by omega)
  exact mem_ne_of_getElem? hm (by omega) (hfree n (by omega) (by omega))

lemma toShort_eq_self {x : Int} (hl : -32768 ≤ x) (hr : x < 32768) : toShort x = x :=
  signed_eq_self (k := 15) (by omega) (by omega)

lemma serialSeekEq_first (hm : m.read str body.length = body) (hshort : body.length < 32768)
    {i e : Nat} (he : FirstAt body 61 i e) (fuel : Nat) (hfuel : e - i < fuel) :
    serialSeekEq m str fuel i = some (e : Int) := by
  have helen := he.lt_length
  induction fuel generalizing i with
  | zero => omega
  | succ fuel ih =>
    rw [serialSeekEq]
    by_cases hie : i = e
    · subst hie
      rw [if_pos (mem_of_getElem? hm he.hit)]
    · have hlt : i < e := by
        have := he.le
        omega
      rw [if_neg (mem_ne_of_getElem? hm (by omega) (he.free i le_rfl hlt)),
        toShort_eq_self (by omega) (by omega)]
      exact_mod_cast ih (i := i + 1) ⟨hlt, he.hit, fun k hk => he.free k (by omega)⟩ (by omega)

lemma serialSeekAmp_next (hm : m.read str body.length = body) (hshort : body.length < 32768)
    {i s : Nat} (hs : NextOrEnd body 38 i s) (fuel : Nat) (hfuel : s - i < fuel) :
    serialSeekAmp m str body.length fuel i = some (s : Int) := by
  have hslen := hs.le_length
  induction fuel generalizing i with
  | zero => omega
  | succ fuel ih =>
    rw [serialSeekAmp]
    by_cases his : i = s
    · subst his
      rw [if_neg]
      rintro ⟨hlt, hne⟩
      exact hne (mem_of_getElem? hm (hs.hit (by omega)))
    · have hlt : i < s := by
        have := hs.le
        omega
      rw [if_pos ⟨by omega, mem_ne_of_getElem? hm (by omega) (hs.free i le_rfl hlt)⟩,
        toShort_eq_self (by omega) (by omega)]
      exact_mod_cast
        ih (i := i + 1) ⟨hlt, hslen, fun k hk => hs.free k (by omega), hs.hit⟩ (by omega)

/-- The scans of `serial_split`. -/
def serialScans (m : Mem UInt8) (str len : Int) : Scans where
  seekEq := serialSeekEq m str shortCycle
  seekAmp := serialSeekAmp m str len shortCycle
  store := id
  done i := decide (i = len)

lemma serialSplitLoop_eq_loop (len : Int) (fuel : Nat) (i : Int) (off : List Int) :
    serialSplitLoop m str len fuel i off = (serialScans m str len).loop fuel i off := by
  induction fuel generalizing i off with
  | zero => rfl
  | succ fuel ih =>
    simp only [serialSplitLoop, Scans.loop, serialScans, ih, id, decide_eq_true_eq]

lemma serialScans_onBody (hm : m.read str body.length = body) (hshort : body.length < 32768) :
    (serialScans m str body.length).OnBody body := by
  refine ⟨fun i e he => ?_, fun e s he hs => ⟨s, ?_, rfl, fun hlt => ⟨rfl, ?_⟩, fun hend => ?_⟩⟩
  · have helen := he.lt_length
    exact serialSeekEq_first hm hshort he shortCycle (by unfold shortCycle; omega)
  · have hslen := hs.le_length
    exact serialSeekAmp_next hm hshort hs shortCycle (by unfold shortCycle; omega)
  · simp [serialScans, hlt.ne]
  · simp [serialScans, hend]

lemma simdSeekEq_first {tzcnt : Nat → Nat} (htz : LaneCount tzcnt)
    (hm : m.read str body.length = body) (hshort : body.length < 32768) {i e : Nat}
    (he : FirstAt body 61 i e) :
    simdSeek tzcnt toShort m str 61 (fun _ => false) shortCycle i = some (e : Int) := by
  have hle := he.le
  have hlen := he.lt_length
  exact simdSeek_first htz (by omega) (mem_of_getElem? hm he.hit)
    (mem_ne_of_free hm hlen.le he.free)
    (fun x hl hr => toShort_eq_self (by omega) (by omega)) shortCycle (by unfold shortCycle; omega)

lemma simdSeekAmp_next {tzcnt : Nat → Nat} (htz : LaneCount tzcnt)
    (hm : m.read str body.length = body) (hshort : body.length + 16 < 32767) {e s : Nat}
    (he : e < body.length) (hs : NextOrEnd body 38 e s) :
    ∃ j : Int, simdSeek tzcnt toShort m str 38 (fun i => decide ((body.length : Int) ≤ i))
        shortCycle e = some j ∧
      (s < body.length → j = s) ∧ (s = body.length → (body.length : Int) ≤ j) := by
  obtain ⟨j, hj, hej, hfree, hhit⟩ := simdSeek_until toShort (m := m) (c := 38)
    htz (show (e : Int) < body.length by omega)
    (fun x hl hr => toShort_eq_self (by omega) (by omega)) shortCycle (by unfold shortCycle; omega)
  refine ⟨j, hj, ?_, ?_⟩
  · intro hlt
    have hse := hs.le
    rcases lt_trichotomy j s with hjs | hjs | hjs
    · exact absurd (hhit (by omega)) (mem_ne_of_free hm hs.le_length hs.free j hej hjs)
    · exact hjs
    · exact absurd (mem_of_getElem? hm (hs.hit hlt)) (hfree s (by omega) hjs (by omega))
  · intro hend
    by_contra hjlt
    exact mem_ne_of_free hm le_rfl (hend ▸ hs.free) j hej (by omega) (hhit (by omega))

/-- The scans of the vector splitters. -/
def simdScans (tzcnt : Nat → Nat) (m : Mem UInt8) (str len : Int) : Scans where
  seekEq := simdSeek tzcnt toShort m str 61 (fun _ => false) shortCycle
  seekAmp := simdSeek tzcnt toShort m str 38 (fun i => decide (len ≤ i)) shortCycle
  store i := if i < len then i else len
  done i := decide (len ≤ i)

lemma simdSplitLoop_eq_loop (tzcnt : Nat → Nat) (len : Int) (fuel : Nat) (i : Int)
    (off : List Int) :
    simdSplitLoop tzcnt m str len fuel i off = (simdScans tzcnt m str len).loop fuel i off := by
  induction fuel generalizing i off with
  | zero => rfl
  | succ fuel ih =>
    simp only [simdSplitLoop, Scans.loop, simdScans, ih, decide_eq_true_eq]

lemma simdScans_onBody {tzcnt : Nat → Nat} (htz : LaneCount tzcnt)
    (hm : m.read str body.length = body) (hshort : body.length + 16 < 32767) :
    (simdScans tzcnt m str body.length).OnBody body := by
  unfold simdScans
  refine ⟨fun i e he => ?_, fun e s he hs => ?_⟩
  · simp only [simdSeekEq_first htz hm (by omega) he]
  · obtain ⟨j, hj, hstop, hend⟩ := simdSeekAmp_next htz hm hshort he hs
    simp only [hj]
    refine ⟨j, rfl, ?_, fun hlt => ⟨hstop hlt, ?_⟩, fun heq => ?_⟩
    · have hslen := hs.le_length
      by_cases hlt : s < body.length
      · simp [hstop hlt, hlt]
      · have heq : s = body.length := by omega
        simp [Int.not_lt.mpr (hend heq), heq]
    · simp [hstop hlt, hlt]
    · simp [hend heq]

/-! ### The splitters -/

theorem serialSplit_eq (hm : m.read str body.length = body) (hshort : body.length < 32768)
    {off : List Int} (hoff : SplitOffsets body 0 off) :
    serialSplit m str body.length = some (-1 :: off) := by
  rw [serialSplit, serialSplitLoop_eq_loop]
  exact (serialScans_onBody hm hshort).loop_eq hoff shortCycle (by unfold shortCycle; omega) [-1]

lemma read_body_write (hm : m.read str body.length = body) :
    (m.write (str + body.length) (List.replicate 16 0)).read str body.length = body := by
  rw [Mem.read_write_before _ _ _ _ _ le_rfl, hm]

theorem sse4SplitEfficient_eq (hm : m.read str body.length = body)
    (hshort : body.length + 16 < 32767) {off : List Int} (hoff : SplitOffsets body 0 off) :
    sse4SplitEfficient m str body.length = some (m, -1 :: off) := by
  have hloop := (simdScans_onBody laneCount_usingPopcnt (read_body_write hm) hshort).loop_eq hoff
    shortCycle (by unfold shortCycle; omega) [-1]
  simp only [Nat.cast_zero] at hloop
  simp only [sse4SplitEfficient, simdSplitLoop_eq_loop, hloop, Option.bind_eq_bind,
    Option.bind_some]
  rw [Mem.write_restore _ _ _ _ (by simp)]
  rfl

theorem avxSplitEfficient_eq (hm : m.read str body.length = body)
    (hshort : body.length + 16 < 32767) {off : List Int} (hoff : SplitOffsets body 0 off) :
    avxSplitEfficient m str body.length =
      some (m.write (str + body.length) (List.replicate 16 0), -1 :: off) := by
  have hloop := (simdScans_onBody laneCount_tzcntU32 (read_body_write hm) hshort).loop_eq hoff
    shortCycle (by unfold shortCycle; omega) [-1]
  simp only [Nat.cast_zero] at hloop
  simp only [avxSplitEfficient, simdSplitLoop_eq_loop, hloop, Option.bind_eq_bind, Option.bind_some]
  rfl

/-- What each build leaves in the memory of the body. -/
def afterSplit (b : Build) (m : Mem UInt8) (str len : Int) : Mem UInt8 :=
  match b with
  | .bmi => m.write (str + len) (List.replicate 16 0)
  | .sse42 => m
  | .plain => m

lemma afterSplit_of_ne_bmi {b : Build} (hb : b ≠ .bmi) (m : Mem UInt8) (str len : Int) :
    afterSplit b m str len = m := by
  cases b with
  | bmi => exact absurd rfl hb
  | sse42 => rfl
  | plain => rfl

lemma read_afterSplit (b : Build) (hm : m.read str body.length = body) :
    (afterSplit b m str body.length).read str body.length = body := by
  cases b with
  | bmi => exact read_body_write hm
  | sse42 => exact hm
  | plain => exact hm

theorem simdSplitEfficient_eq (b : Build) (hm : m.read str body.length = body)
    (hshort : body.length + 16 < 32767) {off : List Int} (hoff : SplitOffsets body 0 off) :
    simdSplitEfficient b m str body.length = some (afterSplit b m str body.length, -1 :: off) := by
  cases b with
  | bmi => exact avxSplitEfficient_eq hm hshort hoff
  | sse42 => exact sse4SplitEfficient_eq hm hshort hoff
  | plain => rw [simdSplitEfficient, serialSplit_eq hm (by omega) hoff]; rfl

end InMemory

/-- The vector splitters agree with the serial one, whatever follows the body in the
buffer, and all three compute the offsets of the body. -/
theorem splitEfficient_agrees (body : List UInt8) (hshort : body.length + 16 < 32767)
    (heq : 61 ∈ body) (hamp : NoAmpAfterLastEq body) :
    ∃ off, SplitOffsets body 0 off ∧ ∀ (m : Mem UInt8) (str : Int),
      m.read str body.length = body →
      serialSplit m str body.length = some (-1 :: off) ∧
      (sse4SplitEfficient m str body.length).map Prod.snd = some (-1 :: off) ∧
      (avxSplitEfficient m str body.length).map Prod.snd = some (-1 :: off) := by
  obtain ⟨off, hoff⟩ := exists_splitOffsets_of_noAmp body heq hamp
  refine ⟨off, hoff, fun m str hm => ⟨serialSplit_eq hm (by omega) hoff, ?_, ?_⟩⟩
  · rw [sse4SplitEfficient_eq hm hshort hoff]
    rfl
  · rw [avxSplitEfficient_eq hm hshort hoff]
    rfl

/-- `a=1&b=`. -/
theorem splitEfficient_agrees_two_fields :
    ∃ off, SplitOffsets [97, 61, 49, 38, 98, 61] 0 off ∧ ∀ (m : Mem UInt8) (str : Int),
      m.read str 6 = [97, 61, 49, 38, 98, 61] →
      serialSplit m str 6 = some (-1 :: off) ∧
      (sse4SplitEfficient m str 6).map Prod.snd = some (-1 :: off) ∧
      (avxSplitEfficient m str 6).map Prod.snd = some (-1 :: off) := by
  exact splitEfficient_agrees [97, 61, 49, 38, 98, 61] (by decide) (by decide)
    (noAmpAfterLastEq_append [97, 61, 49, 38, 98] [] (by decide) (by decide))

end MeshAgent.Proofs
