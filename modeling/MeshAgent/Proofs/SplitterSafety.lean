import MeshAgent.Proofs.Splitter

/-!
# Bodies that a splitter runs past

The scan for `&` is given up at the end of the body, the scan for `=` is not. From a stop
that no `=` follows a splitter reads on behind the body.
-/

namespace MeshAgent.Proofs
open MeshAgent.Foundations MeshAgent.Model

/-- The splitter of the build (`avx_split_efficient`, `sse4_split_efficient` or `serial_split`)
returns, what lies behind the body has no part in the offsets, and none is behind the end. -/
def SafeSplit (b : Build) (body : List UInt8) : Prop :=
  ∀ (m : Mem UInt8) (str : Int), m.read str body.length = body →
    ∃ off : List Int, (∀ o ∈ off, o ≤ (body.length : Int)) ∧ ∀ m' : Mem UInt8,
      (∀ x < str + body.length, m' x = m x) →
        ∃ m'', simdSplitEfficient b m' str body.length = some (m'', off)

section Bodies

variable {body : List UInt8}

lemma SplitOffsets.exists_last {i : Nat} {off : List Int} (h : SplitOffsets body i off) :
    ∃ q : Nat, body[q]? = some 61 ∧ ∀ k, q ≤ k → body[k]? ≠ some 38 := by
  induction h with
  | @last i e he hs =>
    refine ⟨e, he.hit, fun k hk => ?_⟩
    by_cases hlt : k < body.length
    · exact hs.free k hk hlt
    · rw [List.getElem?_eq_none (by omega)]
      simp
  | more _ _ _ _ ih => exact ih

lemma SplitOffsets.noAmp {i : Nat} {off : List Int} (h : SplitOffsets body i off) :
    61 ∈ body ∧ NoAmpAfterLastEq body := by
  obtain ⟨q, hq, hfree⟩ := h.exists_last
  refine ⟨List.mem_of_getElem? hq, ?_⟩
  rintro pre post rfl hpost hamp
  have hle : q ≤ pre.length := by
    by_contra hgt
    rw [List.getElem?_append_right (by omega)] at hq
    obtain ⟨d, hd⟩ : ∃ d, q - pre.length = d + 1 := ⟨q - pre.length - 1, by omega⟩
    rw [hd, List.getElem?_cons_succ] at hq
    exact hpost (List.mem_of_getElem? hq)
  obtain ⟨k, hk, hget⟩ := List.mem_iff_getElem.mp hamp
  apply hfree (pre.length + (k + 1)) (by omega)
  rw [List.getElem?_append_right (by omega), Nat.add_sub_cancel_left, List.getElem?_cons_succ,
    List.getElem?_eq_getElem hk, hget]

lemma SplitOffsets.le_length {i : Nat} {off : List Int} (h : SplitOffsets body i off) :
    ∀ o ∈ off, o ≤ (body.length : Int) := by
  induction h with
  | last he hs =>
    have := he.lt_length
    simp only [List.mem_cons, List.not_mem_nil, or_false, forall_eq_or_imp, forall_eq]
    omega
  | more he hs hlt _ ih =>
    have := he.lt_length
    simp only [List.mem_cons, forall_eq_or_imp]
    exact ⟨by omega, by omega, ih⟩

end Bodies

section Overrun

variable {m : Mem UInt8} {str : Int}

lemma Scans.mem_of_loop {scans : Scans} (fuel : Nat) {i : Int} {acc off : List Int}
    (h : scans.loop fuel i acc = some off) : ∀ o ∈ acc, o ∈ off := by
  induction fuel generalizing i acc with
  | zero => simp [Scans.loop] at h
  | succ fuel ih =>
    simp only [Scans.loop, Option.bind_eq_bind, Option.bind_eq_some_iff] at h
    obtain ⟨e, -, s, -, h⟩ := h
    intro o ho
    split at h
    · cases h
      simp [ho]
    · exact ih h o (by simp [ho])

/-- The body, 16 bytes that are zero, and an `=`. -/
def beforeEq (body : List UInt8) : List UInt8 := body ++ (List.replicate 16 0 ++ [61])

variable {body : List UInt8}

lemma length_beforeEq (body : List UInt8) : (beforeEq body).length = body.length + 17 := by
  simp [beforeEq]

lemma firstAt_beforeEq {i : Nat} (hi : i ≤ body.length)
    (hfree : ∀ k, i ≤ k → body[k]? ≠ some 61) :
    FirstAt (beforeEq body) 61 i (body.length + 16) := by
  have hpad := firstAt_append body (List.replicate 16 0) [] 61 (by decide)
  simp only [List.length_replicate] at hpad
  refine ⟨by omega, hpad.hit, fun k hik hk => ?_⟩
  by_cases hkb : k < body.length
  · rw [beforeEq, List.getElem?_append_left hkb]
    exact hfree k hik
  · exact hpad.free k (by omega) hk

/-- A loop whose scan for `=` goes on behind the body stores where it finds one there. -/
lemma Scans.OnBody.loop_overrun {scans : Scans} (hbody : scans.OnBody body)
    (hbehind : ∀ i e : Nat, FirstAt (beforeEq body) 61 i e → scans.seekEq i = some (e : Int))
    {i : Nat} (hi : i ≤ body.length) (hover : Overruns body i) (fuel : Nat) {acc off : List Int}
    (h : scans.loop fuel i acc = some off) : ((body.length + 16 : Nat) : Int) ∈ off := by
  induction hover generalizing fuel acc with
  | here hfree =>
    cases fuel with
    | zero => simp [Scans.loop] at h
    | succ fuel =>
      simp only [Scans.loop, hbehind _ _ (firstAt_beforeEq hi hfree), Option.bind_eq_bind,
        Option.bind_some, Option.bind_eq_some_iff] at h
      obtain ⟨s, -, h⟩ := h
      split at h
      · cases h
        simp
      · exact Scans.mem_of_loop fuel h _ (by simp)
  | more he hs hlt _ ih =>
    cases fuel with
    | zero => simp [Scans.loop] at h
    | succ fuel =>
      obtain ⟨j, hj, hstore, hstop, -⟩ := hbody.seekAmp _ _ he.lt_length hs
      obtain ⟨rfl, hdone⟩ := hstop hlt
      simp only [Scans.loop, hbody.seekEq _ _ he, hj, Option.bind_eq_bind, Option.bind_some,
        hdone, Bool.false_eq_true, if_false] at h
      exact ih hlt.le fuel h

lemma simdSplitLoop_overrun {tzcnt : Nat → Nat} (htz : LaneCount tzcnt)
    (hm : m.read str (beforeEq body).length = beforeEq body)
    (hshort : body.length + 16 < 32767) (hover : Overruns body 0) (fuel : Nat)
    {acc off : List Int} (h : simdSplitLoop tzcnt m str body.length fuel 0 acc = some off) :
    ((body.length + 16 : Nat) : Int) ∈ off := by
  have hlen := length_beforeEq body
  have hbody := ((Mem.read_append_iff m str body _).mp hm).1
  rw [simdSplitLoop_eq_loop] at h
  refine (simdScans_onBody htz hbody hshort).loop_overrun (fun i e he => ?_) (Nat.zero_le _)
    hover fuel h
  simp only [simdScans, simdSeekEq_first htz hm (by omega) he]

lemma serialSplitLoop_overrun (hm : m.read str (beforeEq body).length = beforeEq body)
    (hshort : body.length + 16 < 32767) (hover : Overruns body 0) (fuel : Nat)
    {acc off : List Int} (h : serialSplitLoop m str body.length fuel 0 acc = some off) :
    ((body.length + 16 : Nat) : Int) ∈ off := by
  have hlen := length_beforeEq body
  have hbody := ((Mem.read_append_iff m str body _).mp hm).1
  rw [serialSplitLoop_eq_loop] at h
  refine (serialScans_onBody hbody (by omega)).loop_overrun (fun i e he => ?_) (Nat.zero_le _)
    hover fuel h
  have helen := he.lt_length
  exact serialSeekEq_first hm (by omega) he shortCycle (by unfold shortCycle; omega)

lemma simdSplitEfficient_overrun (b : Build)
    (hm : m.read str (beforeEq body).length = beforeEq body) (hshort : body.length + 16 < 32767)
    (hover : Overruns body 0) {m' : Mem UInt8} {off : List Int}
    (h : simdSplitEfficient b m str body.length = some (m', off)) :
    ((body.length + 16 : Nat) : Int) ∈ off := by
  have hzeroed : m.write (str + body.length) (List.replicate 16 0) = m := by
    obtain ⟨-, htail⟩ := (Mem.read_append_iff m str body _).mp hm
    obtain ⟨hpad, -⟩ := (Mem.read_append_iff m _ _ _).mp htail
    rw [← hpad, List.length_replicate, Mem.write_read_self]
  cases b with
  | bmi =>
    simp only [simdSplitEfficient, avxSplitEfficient, hzeroed, Option.bind_eq_bind,
      Option.bind_eq_some_iff] at h
    obtain ⟨off', hloop, h⟩ := h
    cases h
    exact simdSplitLoop_overrun laneCount_tzcntU32 hm hshort hover _ hloop
  | sse42 =>
    simp only [simdSplitEfficient, sse4SplitEfficient, hzeroed, Option.bind_eq_bind,
      Option.bind_eq_some_iff] at h
    obtain ⟨off', hloop, h⟩ := h
    cases h
    exact simdSplitLoop_overrun laneCount_usingPopcnt hm hshort hover _ hloop
  | plain =>
    simp only [simdSplitEfficient, serialSplit, Option.map_eq_some_iff] at h
    obtain ⟨off', hloop, h⟩ := h
    cases h
    exact serialSplitLoop_overrun hm hshort hover _ hloop

end Overrun

lemma not_safeSplit_of_overruns (b : Build) {body : List UInt8}
    (hshort : body.length + 16 < 32767) (hover : Overruns body 0) : ¬ SafeSplit b body := by
  intro hsafe
  obtain ⟨off, hle, hbehind⟩ := hsafe (Mem.write (fun _ => 0) 0 body) 0
    (Mem.read_write_self _ _ _ _ rfl)
  obtain ⟨m'', hsplit⟩ := hbehind (Mem.write (fun _ => 0) 0 (beforeEq body)) (fun x hx => by
    rw [beforeEq, ← Mem.write_write_append _ 0 (0 + (body.length : Int)) _ _ rfl]
    exact Mem.write_apply_of_lt _ _ _ _ hx)
  have hmem := simdSplitEfficient_overrun b (Mem.read_write_self _ _ _ _ rfl) hshort hover hsplit
  have := hle _ hmem
  omega

lemma safeSplit_of_splitOffsets (b : Build) {body : List UInt8} {off : List Int}
    (hshort : body.length + 16 < 32767) (hoff : SplitOffsets body 0 off) : SafeSplit b body := by
  intro m str hm
  refine ⟨-1 :: off, ?_, fun m' hm' => ?_⟩
  · simp only [List.mem_cons, forall_eq_or_imp]
    exact ⟨by omega, hoff.le_length⟩
  · exact ⟨_, simdSplitEfficient_eq b (Mem.read_of_agree hm hm') hshort hoff⟩

/-- Each splitter is safe on exactly the bodies with an `=` and no `&` after the last `=`. -/
theorem safeSplit_iff (b : Build) (body : List UInt8) (hshort : body.length + 16 < 32767) :
    SafeSplit b body ↔ 61 ∈ body ∧ NoAmpAfterLastEq body := by
  constructor
  · intro hsafe
    rcases splitOffsets_or_overruns body 0 with ⟨off, hoff⟩ | hover
    · exact hoff.noAmp
    · exact absurd hsafe (not_safeSplit_of_overruns b hshort hover)
  · rintro ⟨heq, hamp⟩
    obtain ⟨off, hoff⟩ := exists_splitOffsets_of_noAmp body heq hamp
    exact safeSplit_of_splitOffsets b hshort hoff

/-- `a=1&b=&c=2`. -/
theorem safeSplit_three_fields :
    SafeSplit .bmi [97, 61, 49, 38, 98, 61, 38, 99, 61, 50] ↔
      (61 : UInt8) ∈ ([97, 61, 49, 38, 98, 61, 38, 99, 61, 50] : List UInt8) ∧
        NoAmpAfterLastEq [97, 61, 49, 38, 98, 61, 38, 99, 61, 50] :=
  safeSplit_iff .bmi [97, 61, 49, 38, 98, 61, 38, 99, 61, 50] (by decide)

/-- The body `a` has no `=`. -/
theorem noEq_unsafe :
    ¬ SafeSplit .bmi [97] ∧ ¬ SafeSplit .sse42 [97] ∧ ¬ SafeSplit .plain [97] := by
  have hover : Overruns [97] 0 := by
    refine .here (fun k _ hk => ?_)
    have := List.mem_of_getElem? hk
    simp at this
  exact ⟨not_safeSplit_of_overruns .bmi (by decide) hover,
    not_safeSplit_of_overruns .sse42 (by decide) hover,
    not_safeSplit_of_overruns .plain (by decide) hover⟩

end MeshAgent.Proofs
