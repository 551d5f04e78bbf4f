import MeshAgent.Model.ProviderAgent
import MeshAgent.Proofs.Transcoding

/-!
# The table of offsets

The splitter stores one offset in front of the fields and two for each field; the two
serializers read the offsets of a field in pairs, and the one behind them.
-/

namespace MeshAgent.Proofs
open MeshAgent.Foundations MeshAgent.Model

/-- The splitter returns, and it and the serializers use no index outside `off[32]`. -/
def WithinOffTable (b : Build) (m : Mem UInt8) (str len : Int) : Prop :=
  ∃ m' off, simdSplitEfficient b m str len = some (m', off) ∧
    (∀ k, k < off.length → k < offCapacity) ∧
    (∀ j, ∀ k ∈ serializeStrIndices m' str off j (off.length / 2) 0, k < offCapacity) ∧
    ∀ k ∈ serializePathDictIndices m' str off (off.length / 2) 0, k < offCapacity

section

variable {m : Mem UInt8} {str : Int} {off : List Int} {n i k : Nat}

lemma serializeStrIndices_le (j : Fin 4) (h : k ∈ serializeStrIndices m str off j n i) :
    k ≤ (i + n) * 2 := by
  induction n generalizing i with
  | zero => simp [serializeStrIndices] at h
  | succ n ih =>
    rw [serializeStrIndices] at h
    simp only [List.mem_cons] at h
    rcases h with rfl | rfl | h
    · omega
    · omega
    · split at h
      · simp only [List.mem_cons, List.not_mem_nil, or_false] at h
        omega
      · have := ih h
        omega

lemma serializePathDictIndices_le (h : k ∈ serializePathDictIndices m str off n i) :
    k ≤ (i + n) * 2 := by
  induction n generalizing i with
  | zero => simp [serializePathDictIndices] at h
  | succ n ih =>
    rw [serializePathDictIndices] at h
    simp only [List.mem_cons] at h
    rcases h with rfl | rfl | h
    · omega
    · omega
    · split at h
      · simp only [List.mem_cons, List.not_mem_nil, or_false] at h
        omega
      · have := ih h
        omega

lemma simdSplitEfficient_formBody (b : Build) {fs : List FormField} (hne : fs ≠ [])
    (hlen : (formBody fs).length ≤ 32750) (hm : m.read str (formBody fs).length = formBody fs) :
    simdSplitEfficient b m str (formBody fs).length =
      some (afterSplit b m str (formBody fs).length, -1 :: fieldOffsets 0 fs) :=
  simdSplitEfficient_eq b hm (by omega) (splitOffsets_of_fields hne)

lemma length_le_of_withinOffTable (b : Build) {fs : List FormField} (hne : fs ≠ [])
    (hlen : (formBody fs).length ≤ 32750) (hm : m.read str (formBody fs).length = formBody fs)
    (h : WithinOffTable b m str (formBody fs).length) : fs.length ≤ 15 := by
  obtain ⟨m', off, hsome, hwrites, -⟩ := h
  rw [simdSplitEfficient_formBody b hne hlen hm] at hsome
  cases hsome
  have hlast := hwrites (2 * fs.length) (by rw [List.length_cons, length_fieldOffsets]; omega)
  unfold offCapacity at hlast
  omega

lemma withinOffTable_of_length_le (b : Build) {fs : List FormField} (hne : fs ≠ [])
    (hlen : (formBody fs).length ≤ 32750) (hm : m.read str (formBody fs).length = formBody fs)
    (hfew : fs.length ≤ 15) : WithinOffTable b m str (formBody fs).length := by
  have hoffCap : offCapacity = 32 := rfl
  have hoffLen : (-1 :: fieldOffsets 0 fs).length = 2 * fs.length + 1 := by
    rw [List.length_cons, length_fieldOffsets]
  refine ⟨_, _, simdSplitEfficient_formBody b hne hlen hm, ?_, ?_, ?_⟩
  · intro k hk
    omega
  · intro j k hk
    have := serializeStrIndices_le j hk
    omega
  · intro k hk
    have := serializePathDictIndices_le hk
    omega

/-- Of the bodies that the relay accepts, exactly those of at most 15 fields are split and
serialized within the table. -/
theorem withinOffTable_iff (b : Build) {fs : List FormField} (hne : fs ≠ [])
    (haccepted : 12 + (formBody fs).length ≤ pDefaultPackageSize)
    (hm : m.read str (formBody fs).length = formBody fs) :
    WithinOffTable b m str (formBody fs).length ↔ fs.length ≤ 15 := by
  have hcap : pDefaultPackageSize = 4096 := rfl
  exact ⟨length_le_of_withinOffTable b hne (by omega) hm,
    withinOffTable_of_length_le b hne (by omega) hm⟩

end

lemma amp_notMem_nil : (38 : UInt8) ∉ ([] : List UInt8) := List.not_mem_nil

/-- `n` fields `method=`. -/
def emptyFields (n : Nat) : List FormField :=
  List.replicate n (postField 1 [] amp_notMem_nil)

/-- Fifteen fields fill the table. -/
theorem withinOffTable_fifteen_fields :
    WithinOffTable .plain (Mem.write (fun _ => 0) 12 (formBody (emptyFields 15))) 12
        (formBody (emptyFields 15)).length ↔ (emptyFields 15).length ≤ 15 :=
  withinOffTable_iff .plain (by decide) (by decide +kernel) (Mem.read_write_self _ _ _ _ rfl)

/-- The comment in `generate_res_in_place` promises room for 16 fields. -/
theorem sixteenFields_outside :
    (emptyFields 16).length = 16 ∧ 12 + (formBody (emptyFields 16)).length ≤ pDefaultPackageSize ∧
      ¬ WithinOffTable .plain (Mem.write (fun _ => 0) 12 (formBody (emptyFields 16))) 12
        (formBody (emptyFields 16)).length := by
  refine ⟨by decide, by decide +kernel, fun h => ?_⟩
  have hle := length_le_of_withinOffTable .plain (by decide) (by decide +kernel)
    (Mem.read_write_self _ _ _ _ rfl) h
  exact absurd hle (by decide)

end MeshAgent.Proofs
