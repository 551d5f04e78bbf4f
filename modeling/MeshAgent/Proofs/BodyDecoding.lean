import MeshAgent.Foundations.JsonLines
import MeshAgent.Proofs.Transcoding

/-!
# Reading the body back

The receiver cuts the body at newlines and reads the lines as JSON. The transcoder puts
decoded bytes raw between quotes, so exactly the strings of plain bytes are read back.
-/

namespace MeshAgent.Proofs
open MeshAgent.Foundations MeshAgent.Model

/-- Letters, digits and `.`. -/
def Unreserved (c : UInt8) : Prop :=
  (48 ≤ c ∧ c ≤ 57) ∨ (65 ≤ c ∧ c ≤ 90) ∨ (97 ≤ c ∧ c ≤ 122) ∨ c = 46

instance : DecidablePred Unreserved := fun c =>
  inferInstanceAs (Decidable
    ((48 ≤ c ∧ c ≤ 57) ∨ (65 ≤ c ∧ c ≤ 90) ∨ (97 ≤ c ∧ c ≤ 122) ∨ c = 46))

/-- The first field with the key `post_keys[j]` carries `s`. -/
def Carries (fs : List FormField) (j : Fin 4) (s : List UInt8) : Prop :=
  ∃ f, knownField fs j = some f ∧ PercentEncodes Unreserved f.value s

/-- The fields carry the four strings of a request. -/
structure CarriesRequest (fs : List FormField)
    (interface method parameterTypesString parameter : List UInt8) : Prop where
  interface_unreserved : ∀ c ∈ interface, Unreserved c
  interface : Carries fs 0 interface
  method : Carries fs 1 method
  parameterTypesString : Carries fs 2 parameterTypesString
  parameter : Carries fs 3 parameter

/-- Seven lines, of which the second, fourth, fifth and sixth are the four strings as
JSON string literals. -/
structure ReadsBack (body interface method parameterTypesString parameter : List UInt8) :
    Prop where
  lines : (cutLines body).length = 7
  interface : (cutLines body)[1]?.bind readJsonString = some interface
  method : (cutLines body)[3]?.bind readJsonString = some method
  parameterTypesString : (cutLines body)[4]?.bind readJsonString = some parameterTypesString
  parameter : (cutLines body)[5]?.bind readJsonString = some parameter

lemma jsonPlain_of_unreserved {c : UInt8} (h : Unreserved c) : JsonPlain c := by
  simp only [Unreserved, JsonPlain, UInt8.le_iff_toNat_le, ne_eq, ← UInt8.toNat_inj] at *
  simp only [UInt8.reduceToNat] at *
  omega

lemma not_unreserved_percent : ¬ Unreserved 37 := by
  decide

lemma not_mem_newline {s : List UInt8} (h : ∀ c ∈ s, JsonPlain c) : 10 ∉ s := by
  intro hmem
  exact absurd (h 10 hmem).1 (by decide)

def quoted (s : List UInt8) : List UInt8 := 34 :: (s ++ [34])

/-- The lines of a body whose fields carry the four strings. -/
def requestLines (interface method parameterTypesString parameter : List UInt8) :
    List (List UInt8) :=
  [quoted (ascii ['2', '.', '0', '.', '1']), quoted interface, ascii ['n', 'u', 'l', 'l'],
    quoted method, quoted parameterTypesString, quoted parameter,
    pathPrefix ++ (interface ++ ascii ['"', '\x7d'])]

section

variable {fs : List FormField} {interface method parameterTypesString parameter : List UInt8}

lemma knownLine_of_carries {j : Fin 4} {s : List UInt8} (h : Carries fs j s) :
    knownLine fs j = quoted s ++ [10] := by
  obtain ⟨f, hf, henc⟩ := h
  rw [knownLine, hf]
  simp [quoted, henc.decode not_unreserved_percent]

lemma pathLine_of_carries {s : List UInt8} (h : Carries fs 0 s) (hs : ∀ c ∈ s, Unreserved c) :
    pathLine fs = pathPrefix ++ (s ++ ascii ['"', '\x7d']) ++ [10] := by
  obtain ⟨f, hf, henc⟩ := h
  have hsuffix : pathSuffix = ascii ['"', '\x7d'] ++ [10] := rfl
  rw [pathLine, hf, hsuffix]
  simp [henc.eq_of_keep hs]

lemma CarriesRequest.dubboBody_eq
    (h : CarriesRequest fs interface method parameterTypesString parameter) :
    dubboBody fs = joinLines (requestLines interface method parameterTypesString parameter) := by
  have hversion : dubboVersion = quoted (ascii ['2', '.', '0', '.', '1']) ++ [10] := rfl
  have hnull : nullLine = ascii ['n', 'u', 'l', 'l'] ++ [10] := rfl
  rw [dubboBody, knownLine_of_carries h.interface, knownLine_of_carries h.method,
    knownLine_of_carries h.parameterTypesString, knownLine_of_carries h.parameter,
    pathLine_of_carries h.interface h.interface_unreserved, hversion, hnull]
  simp [joinLines, requestLines]

lemma CarriesRequest.knownValid
    (h : CarriesRequest fs interface method parameterTypesString parameter) : KnownValid fs := by
  intro j f hf
  have hcarries : ∃ s, Carries fs j s := by
    match j with
    | 0 => exact ⟨_, h.interface⟩
    | 1 => exact ⟨_, h.method⟩
    | 2 => exact ⟨_, h.parameterTypesString⟩
    | 3 => exact ⟨_, h.parameter⟩
  obtain ⟨s, g, hg, henc⟩ := hcarries
  rw [hf] at hg
  obtain rfl := Option.some.inj hg
  exact henc.valid not_unreserved_percent

/-- The lines are read back exactly when the raw bytes are plain. -/
theorem readsBack_joinLines_iff (hinterface : ∀ c ∈ interface, Unreserved c) :
    ReadsBack (joinLines (requestLines interface method parameterTypesString parameter))
        interface method parameterTypesString parameter ↔
      ∀ c ∈ method ++ (parameterTypesString ++ parameter), JsonPlain c := by
  have hi : ∀ c ∈ interface, JsonPlain c := fun c hc => jsonPlain_of_unreserved (hinterface c hc)
  have hlines : (∀ l ∈ requestLines interface method parameterTypesString parameter, 10 ∉ l) →
      cutLines (joinLines (requestLines interface method parameterTypesString parameter)) =
        requestLines interface method parameterTypesString parameter := cutLines_joinLines
  constructor
  · intro h
    have hfree := (length_cutLines_joinLines
      (requestLines interface method parameterTypesString parameter)).2 h.lines
    have hm := h.method
    have ht := h.parameterTypesString
    have hp := h.parameter
    rw [hlines hfree] at hm ht hp
    have hm' := (readJsonString_quoted_iff method).mp hm
    have ht' := (readJsonString_quoted_iff parameterTypesString).mp ht
    have hp' := (readJsonString_quoted_iff parameter).mp hp
    intro c hc
    simp only [List.mem_append] at hc
    rcases hc with hc | hc | hc
    · exact hm' c hc
    · exact ht' c hc
    · exact hp' c hc
  · intro h
    have hm : ∀ c ∈ method, JsonPlain c := fun c hc => h c (by simp [hc])
    have ht : ∀ c ∈ parameterTypesString, JsonPlain c := fun c hc => h c (by simp [hc])
    have hp : ∀ c ∈ parameter, JsonPlain c := fun c hc => h c (by simp [hc])
    have hquoted : ∀ s : List UInt8, 10 ∉ s → 10 ∉ quoted s := by
      intro s hs
      simp [quoted, hs]
    have hfree : ∀ l ∈ requestLines interface method parameterTypesString parameter, 10 ∉ l := by
      intro l hl
      simp only [requestLines, List.mem_cons, List.not_mem_nil, or_false] at hl
      rcases hl with rfl | rfl | rfl | rfl | rfl | rfl | rfl
      · decide
      · exact hquoted _ (not_mem_newline hi)
      · decide
      · exact hquoted _ (not_mem_newline hm)
      · exact hquoted _ (not_mem_newline ht)
      · exact hquoted _ (not_mem_newline hp)
      · simp [not_mem_newline hi, pathPrefix, ascii]
    have hcut := hlines hfree
    refine ⟨by rw [hcut]; rfl, ?_, ?_, ?_, ?_⟩
    · rw [hcut]
      exact (readJsonString_quoted_iff interface).mpr hi
    · rw [hcut]
      exact (readJsonString_quoted_iff method).mpr hm
    · rw [hcut]
      exact (readJsonString_quoted_iff parameterTypesString).mpr ht
    · rw [hcut]
      exact (readJsonString_quoted_iff parameter).mpr hp

lemma CarriesRequest.generateBody
    (h : CarriesRequest fs interface method parameterTypesString parameter) (b : Build)
    {m : Mem UInt8} {str : Int} (hm : m.read str (formBody fs).length = formBody fs)
    (res : Mem UInt8) :
    ∃ size res', generateBody b res m str (-1 :: fieldOffsets 0 fs)
        (-1 :: fieldOffsets 0 fs).length = some (size, res') ∧
      res'.read 16 (size - 16).toNat =
        joinLines (requestLines interface method parameterTypesString parameter) := by
  obtain ⟨body, hbody, hgen⟩ := generateBody_eq b fs hm res
  refine ⟨_, _, hgen, ?_⟩
  rw [← h.dubboBody_eq, ← hbody.eq_of_valid h.knownValid]
  exact Mem.read_write_self _ _ _ _ (by omega)

end

/-- The body is read back exactly when method, parameter types and parameter hold no
quote, no backslash and no byte below 32. -/
theorem generateBody_readsBack_iff (b : Build) (fs : List FormField)
    (interface method parameterTypesString parameter : List UInt8)
    (h : CarriesRequest fs interface method parameterTypesString parameter)
    (m : Mem UInt8) (str : Int) (hm : m.read str (formBody fs).length = formBody fs)
    (res : Mem UInt8) :
    ∃ size res', generateBody b res m str (-1 :: fieldOffsets 0 fs)
        (-1 :: fieldOffsets 0 fs).length = some (size, res') ∧
      (ReadsBack (res'.read 16 (size - 16).toNat) interface method parameterTypesString parameter ↔
        ∀ c ∈ method ++ (parameterTypesString ++ parameter), JsonPlain c) := by
  obtain ⟨size, res', hgen, hread⟩ := h.generateBody b hm res
  refine ⟨size, res', hgen, ?_⟩
  rw [hread]
  exact readsBack_joinLines_iff h.interface_unreserved

/-- `interface=a&method=m&parameterTypesString=t&parameter=...` -/
def requestFields (parameter : List UInt8) (h : 38 ∉ parameter) : List FormField :=
  [⟨postKeys 0, [97], by decide, by decide, by decide⟩,
    ⟨postKeys 1, [109], by decide, by decide, by decide⟩,
    ⟨postKeys 2, [116], by decide, by decide, by decide⟩,
    ⟨postKeys 3, parameter, by decide, by decide, h⟩]

lemma requestFields_carries {v s : List UInt8} (hv : 38 ∉ v) (h : PercentEncodes Unreserved v s) :
    CarriesRequest (requestFields v hv) [97] [109] [116] s :=
  ⟨List.forall_mem_singleton.mpr (by decide), ⟨_, rfl, .plain (by decide) .nil⟩,
    ⟨_, rfl, .plain (by decide) .nil⟩, ⟨_, rfl, .plain (by decide) .nil⟩, ⟨_, rfl, h⟩⟩

theorem generateBody_readsBack_iff_space :
    ∃ size res', generateBody .sse42 (fun _ => 0)
        (Mem.write (fun _ => 0) 0 (formBody (requestFields [120, 37, 50, 48] (by decide)))) 0
        (-1 :: fieldOffsets 0 (requestFields [120, 37, 50, 48] (by decide)))
        (-1 :: fieldOffsets 0 (requestFields [120, 37, 50, 48] (by decide))).length =
          some (size, res') ∧
      (ReadsBack (res'.read 16 (size - 16).toNat) [97] [109] [116] [120, 32] ↔
        ∀ c ∈ [109] ++ ([116] ++ [120, 32]), JsonPlain c) :=
  generateBody_readsBack_iff .sse42 _ _ _ _ _
    (requestFields_carries (by decide) (.plain (by decide)
      (.escape (by decide) (by decide) (by decide) .nil)))
    _ 0 (Mem.read_write_self _ _ _ _ rfl) _

/-- A newline in the parameter is not read back. -/
theorem generateBody_newline :
    CarriesRequest (requestFields [37, 48, 65] (by decide)) [97] [109] [116] [10] ∧
    ∃ size res', generateBody .plain (fun _ => 0)
        (Mem.write (fun _ => 0) 0 (formBody (requestFields [37, 48, 65] (by decide)))) 0
        (-1 :: fieldOffsets 0 (requestFields [37, 48, 65] (by decide)))
        (-1 :: fieldOffsets 0 (requestFields [37, 48, 65] (by decide))).length =
          some (size, res') ∧
      ¬ ReadsBack (res'.read 16 (size - 16).toNat) [97] [109] [116] [10] := by
  have hcarry : CarriesRequest (requestFields [37, 48, 65] (by decide)) [97] [109] [116] [10] :=
    requestFields_carries (by decide) (.escape (by decide) (by decide) (by decide) .nil)
  obtain ⟨size, res', hgen, hread⟩ :=
    hcarry.generateBody .plain (m := Mem.write (fun _ => 0) 0 _)
      (Mem.read_write_self _ _ _ _ rfl) (fun _ => 0)
  refine ⟨hcarry, size, res', hgen, ?_⟩
  rw [hread, readsBack_joinLines_iff hcarry.interface_unreserved]
  decide

end MeshAgent.Proofs
