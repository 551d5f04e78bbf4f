import MeshAgent.Model.ProviderAgent
import MeshAgent.Proofs.OffsetTable

/-!
# Whether a package fits its block

The relay gives `generate_res_in_place` a fresh block for the package and its receive buffer
for the body. The size of the package depends on the fields; what the splitter touches
depends on the build.
-/

namespace MeshAgent.Proofs
open MeshAgent.Foundations MeshAgent.Model

section Touches

variable {m : Mem UInt8} {str : Int} {body : List UInt8} {tzcnt : Nat → Nat}

/-- What the loop touches when `atEq` and `atAmp` are what its scans touch. -/
def Scans.touched (scans : Scans) (atEq atAmp : Int → List Int) : Nat → Int → List Int
  | 0, _ => []
  | fuel + 1, i =>
    atEq i ++ (scans.seekEq i).elim [] fun i =>
      atAmp i ++ (scans.seekAmp i).elim [] fun i =>
        if scans.done i = true then [] else scans.touched atEq atAmp fuel i

lemma Scans.OnBody.touched_lt {scans : Scans} (h : scans.OnBody body) {atEq atAmp : Int → List Int}
    (heqAt : ∀ i e : Nat, FirstAt body 61 i e → ∀ x ∈ atEq i, (i : Int) ≤ x ∧ x ≤ e)
    (hampAt : ∀ e : Nat, e < body.length → ∀ x ∈ atAmp e, (e : Int) ≤ x ∧ x < body.length)
    {i : Nat} {off : List Int} (hoff : SplitOffsets body i off) (fuel : Nat) :
    ∀ x ∈ scans.touched atEq atAmp fuel i, (i : Int) ≤ x ∧ x < body.length := by
  induction hoff generalizing fuel with
  | @last i e he hs =>
    cases fuel with
    | zero => simp [Scans.touched]
    | succ fuel =>
      obtain ⟨j, hj, -, -, hend⟩ := h.seekAmp _ _ he.lt_length hs
      have hle := he.le
      have hlen := he.lt_length
      intro x hx
      simp only [Scans.touched, h.seekEq _ _ he, hj, Option.elim_some, if_pos (hend rfl),
        List.append_nil, List.mem_append] at hx
      rcases hx with hx | hx
      · have := heqAt _ _ he x hx
        omega
      · have := hampAt _ hlen x hx
        omega
  | @more i e s rest he hs hlt _ ih =>
    cases fuel with
    | zero => simp [Scans.touched]
    | succ fuel =>
      obtain ⟨j, hj, -, hstop, -⟩ := h.seekAmp _ _ he.lt_length hs
      obtain ⟨rfl, hdone⟩ := hstop hlt
      have his := stop_lt_of_amp he hs
      have hle := he.le
      have hlen := he.lt_length
      intro x hx
      simp only [Scans.touched, h.seekEq _ _ he, hj, Option.elim_some, hdone, Bool.false_eq_true,
        if_false, List.mem_append] at hx
      rcases hx with hx | hx | hx
      · have := heqAt _ _ he x hx
        omega
      · have := hampAt _ hlen x hx
        omega
      · have := ih fuel x hx
        omega

lemma simdSplitLoads_eq_touched (len : Int) (fuel : Nat) (i : Int) :
    simdSplitLoads tzcnt m str len fuel i = (simdScans tzcnt m str len).touched
      (simdSeekLoads tzcnt toShort m str 61 (fun _ => false) shortCycle)
      (simdSeekLoads tzcnt toShort m str 38 (fun i => decide (len ≤ i)) shortCycle) fuel i := by
  induction fuel generalizing i with
  | zero => rfl
  | succ fuel ih =>
    simp only [simdSplitLoads, Scans.touched, simdScans, ih, decide_eq_true_eq]
    cases simdSeek tzcnt toShort m str 61 (fun _ => false) shortCycle i with
    | none => simp only [Option.elim_none]
    | some e =>
      simp only [Option.elim_some]
      cases simdSeek tzcnt toShort m str 38 (fun i => decide (len ≤ i)) shortCycle e with
      | none => simp only [Option.elim_none]
      | some s => simp only [Option.elim_some]

lemma simdSplitLoads_lt (htz : LaneCount tzcnt) (hm : m.read str body.length = body)
    (hshort : body.length + 16 < 32767) {off : List Int} (hoff : SplitOffsets body 0 off)
    (fuel : Nat) :
    ∀ x ∈ simdSplitLoads tzcnt m str body.length fuel 0, 0 ≤ x ∧ x < body.length := by
  rw [simdSplitLoads_eq_touched]
  refine (simdScans_onBody htz hm hshort).touched_lt (fun i e he => ?_) (fun e he => ?_) hoff fuel
  · have hle := he.le
    have hlen := he.lt_length
    exact simdSeekLoads_first htz (by omega) (mem_of_getElem? hm he.hit)
      (fun x hl hr => toShort_eq_self (by omega) (by omega)) _
  · exact simdSeekLoads_until htz (by omega)
      (fun x hl hr => toShort_eq_self (by omega) (by omega)) _

lemma serialSeekEqReads_le {e : Int} (hit : m (str + e) = 61) (he : e < 32767) (fuel : Nat)
    {i : Int} (hi : 0 ≤ i) (hie : i ≤ e) :
    ∀ x ∈ serialSeekEqReads m str fuel i, i ≤ x ∧ x ≤ e := by
  induction fuel generalizing i with
  | zero => simp [serialSeekEqReads]
  | succ fuel ih =>
    intro x hx
    rw [serialSeekEqReads] at hx
    rcases List.mem_cons.mp hx with rfl | hx
    · exact ⟨le_rfl, hie⟩
    · split at hx
      · simp at hx
      · next hmiss =>
        have hne : i ≠ e := by
          rintro rfl
          exact hmiss hit
        rw [toShort_eq_self (by omega) (by omega)] at hx
        have := ih (i := i + 1) (by omega) (by omega) x hx
        omega

lemma serialSeekAmpReads_lt {len : Int} (hlen : len < 32767) (fuel : Nat) {i : Int} (hi : 0 ≤ i) :
    ∀ x ∈ serialSeekAmpReads m str len fuel i, i ≤ x ∧ x < len := by
  induction fuel generalizing i with
  | zero => simp [serialSeekAmpReads]
  | succ fuel ih =>
    intro x hx
    rw [serialSeekAmpReads] at hx
    split at hx
    · next hlt =>
      rcases List.mem_cons.mp hx with rfl | hx
      · exact ⟨le_rfl, hlt⟩
      · split at hx
        · rw [toShort_eq_self (by omega) (by omega)] at hx
          have := ih (i := i + 1) (by omega) x hx
          omega
        · simp at hx
    · simp at hx

lemma serialSplitReads_eq_touched (len : Int) (fuel : Nat) (i : Int) :
    serialSplitReads m str len fuel i = (serialScans m str len).touched
      (serialSeekEqReads m str shortCycle) (serialSeekAmpReads m str len shortCycle) fuel i := by
  induction fuel generalizing i with
  | zero => rfl
  | succ fuel ih =>
    simp only [serialSplitReads, Scans.touched, serialScans, ih, decide_eq_true_eq]
    cases serialSeekEq m str shortCycle i with
    | none => simp only [Option.elim_none]
    | some e =>
      simp only [Option.elim_some]
      cases serialSeekAmp m str len shortCycle e with
      | none => simp only [Option.elim_none]
      | some s => simp only [Option.elim_some]

lemma serialSplitReads_lt (hm : m.read str body.length = body) (hshort : body.length < 32767)
    {off : List Int} (hoff : SplitOffsets body 0 off) (fuel : Nat) :
    ∀ x ∈ serialSplitReads m str body.length fuel 0, 0 ≤ x ∧ x < body.length := by
  rw [serialSplitReads_eq_touched]
  refine (serialScans_onBody hm (by omega)).touched_lt (fun i e he => ?_) (fun e he => ?_) hoff fuel
  · have hle := he.le
    have hlen := he.lt_length
    exact serialSeekEqReads_le (mem_of_getElem? hm he.hit) (by omega) _ (by omega) (by omega)
  · exact serialSeekAmpReads_lt (by omega) _ (by omega)

lemma splitTouches_le_iff (b : Build) (hm : m.read str body.length = body)
    (hshort : body.length + 16 < 32767) {off : List Int} (hoff : SplitOffsets body 0 off)
    {size : Int} (hsize : str + body.length ≤ size) :
    (∀ block ∈ splitTouches b m str body.length, block.1 + block.2 ≤ size) ↔
      b = .plain ∨ str + body.length + 16 ≤ size := by
  have hvector : ∀ {tzcnt}, LaneCount tzcnt →
      ((∀ block ∈ ((str + (body.length : Int), 16) : Int × Nat) ::
          (simdSplitLoads tzcnt (m.write (str + body.length) (List.replicate 16 0)) str
            body.length shortCycle 0).map (fun i => (str + i, 16)),
        block.1 + block.2 ≤ size) ↔ str + body.length + 16 ≤ size) := by
    intro tzcnt htz
    refine ⟨fun h => h _ List.mem_cons_self, fun hroom block hblock => ?_⟩
    rcases List.mem_cons.mp hblock with rfl | hblock
    · exact hroom
    · obtain ⟨x, hx, rfl⟩ := List.mem_map.mp hblock
      have := (simdSplitLoads_lt htz (read_body_write hm) hshort hoff shortCycle x hx).2
      simp only
      omega
  cases b with
  | bmi =>
    simp only [splitTouches, hvector laneCount_tzcntU32, reduceCtorEq, false_or]
  | sse42 =>
    simp only [splitTouches, hvector laneCount_usingPopcnt, reduceCtorEq, false_or]
  | plain =>
    refine ⟨fun _ => .inl rfl, fun _ block hblock => ?_⟩
    obtain ⟨x, hx, rfl⟩ := List.mem_map.mp hblock
    have := (serialSplitReads_lt hm (by omega) hoff shortCycle x hx).2
    simp only
    omega

end Touches

/-- The size of the line of the first field with the key `post_keys[j]`: each escape of its
value makes one byte of three, and quotes and a newline are added. -/
def lineSize (fs : List FormField) (j : Fin 4) : Nat :=
  match knownField fs j with
  | none => 0
  | some f => f.value.length - 2 * f.value.count 37 + 3

/-- The size of the attachment with the raw value of `interface`. -/
def pathSize (fs : List FormField) : Nat :=
  match knownField fs 0 with
  | none => 0
  | some f => f.value.length + 12

/-- The size of the package: 16 bytes of header, the fixed lines of 8 and 5 bytes, the lines
of the four known keys and the attachment. -/
def packageSize (fs : List FormField) : Nat :=
  16 + 8 + 5 + (lineSize fs 0 + lineSize fs 1 + lineSize fs 2 + lineSize fs 3) + pathSize fs

lemma length_knownLine {fs : List FormField} (hvalid : ∀ f ∈ fs, PercentValid f.value)
    (j : Fin 4) : (knownLine fs j).length = lineSize fs j := by
  unfold knownLine lineSize
  cases hknown : knownField fs j with
  | none => rfl
  | some f =>
    have hdecode := length_percentDecode (hvalid f (List.mem_of_find?_eq_some hknown))
    simp only [List.length_cons, List.length_append, List.length_nil]
    omega

lemma length_pathLine (fs : List FormField) : (pathLine fs).length = pathSize fs := by
  have hpre : pathPrefix.length = 9 := rfl
  have hsuf : pathSuffix.length = 3 := rfl
  unfold pathLine pathSize
  cases knownField fs 0 with
  | none => rfl
  | some f =>
    simp only [List.length_append]
    omega

lemma length_dubboPackage_eq {fs : List FormField} (hvalid : ∀ f ∈ fs, PercentValid f.value)
    (reqId : Int) : (dubboPackage fs reqId).length = packageSize fs := by
  have hversion : dubboVersion.length = 8 := rfl
  have hnull : nullLine.length = 5 := rfl
  rw [length_dubboPackage, dubboBody, packageSize]
  simp only [List.length_append, length_knownLine hvalid, length_pathLine]
  omega

/-- `generate_res_in_place` stores at most the 4096 bytes of `dubbo_package`, and the
splitter stays inside `raw_buf1`. -/
def PackageFits (b : Build) (fresh raw : Mem UInt8) (len reqId : Int) : Prop :=
  (∃ raw' pkg, generateResInPlace b fresh raw 12 len reqId =
      some (raw', fresh.write 0 pkg, (pkg.length : Int)) ∧ pkg.length ≤ pDefaultPackageSize) ∧
    ∀ block ∈ splitTouches b raw 12 len, block.1 + block.2 ≤ pDefaultPackageSize

section

variable {raw : Mem UInt8} {fs : List FormField}

lemma PackageFits.packageSize_le {b : Build} {fresh : Mem UInt8} {reqId : Int} (hne : fs ≠ [])
    (hcount : fs.length ≤ 15) (hlen : (formBody fs).length ≤ 32750)
    (hvalid : ∀ f ∈ fs, PercentValid f.value)
    (hm : raw.read 12 (formBody fs).length = formBody fs)
    (h : PackageFits b fresh raw (formBody fs).length reqId) :
    packageSize fs ≤ pDefaultPackageSize := by
  obtain ⟨⟨raw', pkg, hsome, hfits⟩, -⟩ := h
  rw [generateResInPlace_package b fs hne hcount hlen hvalid raw fresh 12 reqId hm] at hsome
  simp only [Option.some.injEq, Prod.mk.injEq] at hsome
  have hsize := length_dubboPackage_eq hvalid reqId
  omega

/-- Of the bodies that the relay accepts, exactly those fit whose package, by the sizes of
their fields, has at most 4096 bytes and, on the builds with vector paths, that leave 16
bytes of the buffer behind them. -/
theorem packageFits_iff (b : Build) (hne : fs ≠ []) (hcount : fs.length ≤ 15)
    (hvalid : ∀ f ∈ fs, PercentValid f.value)
    (haccepted : 12 + (formBody fs).length ≤ pDefaultPackageSize)
    (hm : raw.read 12 (formBody fs).length = formBody fs) (fresh : Mem UInt8) (reqId : Int) :
    PackageFits b fresh raw (formBody fs).length reqId ↔
      packageSize fs ≤ pDefaultPackageSize ∧
        (b = .plain ∨ 12 + (formBody fs).length + 16 ≤ pDefaultPackageSize) := by
  have hcap : pDefaultPackageSize = 4096 := rfl
  have htouches := splitTouches_le_iff b hm (by omega) (splitOffsets_of_fields hne)
    (show (12 : Int) + (formBody fs).length ≤ pDefaultPackageSize by omega)
  have hroom : (12 : Int) + (formBody fs).length + 16 ≤ pDefaultPackageSize ↔
      12 + (formBody fs).length + 16 ≤ pDefaultPackageSize := by
    omega
  rw [hroom] at htouches
  constructor
  · intro h
    exact ⟨h.packageSize_le hne hcount (by omega) hvalid hm, htouches.mp h.2⟩
  · rintro ⟨hfits, hsplit⟩
    have hpackage := generateResInPlace_package b fs hne hcount (by omega) hvalid raw fresh 12
      reqId hm
    refine ⟨⟨_, _, hpackage, ?_⟩, htouches.mpr hsplit⟩
    rw [length_dubboPackage_eq hvalid]
    exact hfits

end

theorem packageFits_hash :
    PackageFits .sse42 (fun _ => 0) (Mem.write (fun _ => 0) 12 (formBody hashFields))
        (formBody hashFields).length 7 ↔
      packageSize hashFields ≤ pDefaultPackageSize ∧ (Build.sse42 = .plain ∨
        12 + (formBody hashFields).length + 16 ≤ pDefaultPackageSize) :=
  packageFits_iff .sse42 (by decide) (by decide) hashFields_valid (by decide)
    (Mem.read_write_self _ _ _ _ rfl) _ 7

lemma amp_notMem_letters (n : Nat) : 38 ∉ List.replicate n (97 : UInt8) := by simp

/-- `interface=` and `n` letters. -/
def interfaceOf (n : Nat) : List FormField :=
  [postField 0 (List.replicate n 97) (amp_notMem_letters n)]

lemma interfaceOf_valid (n : Nat) : ∀ f ∈ interfaceOf n, PercentValid f.value := by
  intro f hf
  rw [List.mem_singleton.mp hf]
  exact percentValid_of_notMem (by simp [postField])

lemma length_formBody_interfaceOf (n : Nat) : (formBody (interfaceOf n)).length = n + 10 := by
  simp [interfaceOf, postField, formBody, FormField.bytes, postKeys, ascii]

lemma packageSize_interfaceOf (n : Nat) : packageSize (interfaceOf n) = 2 * n + 44 := by
  have hnone : ∀ j, j ≠ 0 → knownField (interfaceOf n) j = none := by
    intro j hj
    rw [interfaceOf, knownField_cons_neg]
    · rfl
    · revert j
      simp only [beq_iff_eq, postField]
      decide
  have hcount : (List.replicate n (97 : UInt8)).count 37 = 0 := by
    simp [List.count_replicate]
  unfold packageSize lineSize pathSize
  rw [hnone 1 (by decide), hnone 2 (by decide), hnone 3 (by decide), interfaceOf,
    knownField_cons_pos (beq_self_eq_true _)]
  simp only [postField, List.length_replicate, hcount]
  omega

/-- An interface name of 2100 letters is accepted, and needs more than 4096 bytes. -/
theorem longInterface_overflows :
    12 + (formBody (interfaceOf 2100)).length ≤ pDefaultPackageSize ∧
      ¬ PackageFits .plain (fun _ => 0) (Mem.write (fun _ => 0) 12 (formBody (interfaceOf 2100)))
        (formBody (interfaceOf 2100)).length 7 := by
  have hlen := length_formBody_interfaceOf 2100
  have hcap : pDefaultPackageSize = 4096 := rfl
  have hne : interfaceOf 2100 ≠ [] := List.cons_ne_nil _ _
  refine ⟨by omega, fun h => ?_⟩
  have hle := h.packageSize_le hne (Nat.le_of_ble_eq_true rfl) (by omega)
    (interfaceOf_valid 2100) (Mem.read_write_self _ _ _ _ rfl)
  rw [packageSize_interfaceOf] at hle
  omega

end MeshAgent.Proofs
