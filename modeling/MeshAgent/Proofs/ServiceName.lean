import MeshAgent.Proofs.Transcoding

/-!
# The two copies of the service name

The service name stands in the first line of the package and in the path attachment.
`serialize_str` decodes it and `serialize_path_dict` copies it.
-/

namespace MeshAgent.Proofs
open MeshAgent.Foundations MeshAgent.Model

/-- The lines that the two serializers write, wherever they write them, and `generate_body`
with them. -/
structure GeneratesLines (b : Build) (m : Mem UInt8) (str : Int) (off : List Int)
    (line : Fin 4 → List UInt8) (path : List UInt8) : Prop where
  serializeStr : ∀ j offset res, serializeStr b m str off off.length offset res j =
    some (offset + (line j).length, res.write offset (line j))
  serializePathDict : ∀ offset res, serializePathDict m str off off.length offset res =
    some (offset + path.length, res.write offset path)
  generateBody : ∀ res, ∃ size, generateBody b res m str off off.length =
    some (size, res.write 16 (dubboVersion ++ (line 0 ++ (nullLine ++ (line 1 ++ (line 2 ++
      (line 3 ++ path)))))))

/-- The body is split within the table of offsets, and its interface line and its path
attachment hold the same string. -/
def NamesAgree (b : Build) (m : Mem UInt8) (str len : Int) : Prop :=
  ∃ m' off line path name, simdSplitEfficient b m str len = some (m', off) ∧
    off.length ≤ offCapacity ∧ GeneratesLines b m' str off line path ∧
    line 0 = 34 :: (name ++ [34, 10]) ∧ path = pathPrefix ++ (name ++ pathSuffix)

section

variable {m : Mem UInt8} {str : Int} {off : List Int} {b : Build}

variable (m str b) in
lemma generatesLines_table (n : Nat) (hn : off.length / 2 = n) (hord : ValuesOrdered off n 0) :
    GeneratesLines b m str off (quotedLine (fieldTable m str off n 0))
      (dictLine (fieldTable m str off n 0)) := by
  subst hn
  exact ⟨fun j offset res => serializeStrLoop_eq b j _ 0 offset res,
    fun offset res => serializePathDictLoop_eq _ 0 (hord.nameOrdered _ _) offset res,
    fun res => ⟨_, generateBody_eq_serializedBody m str b off.length (hord.nameOrdered _ _) res⟩⟩

lemma GeneratesLines.line_unique {line line' : Fin 4 → List UInt8} {path path' : List UInt8}
    (h : GeneratesLines b m str off line path) (h' : GeneratesLines b m str off line' path')
    (j : Fin 4) : line j = line' j := by
  have heq := (h.serializeStr j 0 m).symm.trans (h'.serializeStr j 0 m)
  simp only [Option.some.injEq, Prod.mk.injEq] at heq
  exact Mem.write_injective m 0 (by omega) heq.2

lemma GeneratesLines.path_unique {line line' : Fin 4 → List UInt8} {path path' : List UInt8}
    (h : GeneratesLines b m str off line path) (h' : GeneratesLines b m str off line' path') :
    path = path' := by
  have heq := (h.serializePathDict 0 m).symm.trans (h'.serializePathDict 0 m)
  simp only [Option.some.injEq, Prod.mk.injEq] at heq
  exact Mem.write_injective m 0 (by omega) heq.2

lemma generatesLines_formBody {fs : List FormField} {f : FormField}
    (hf : knownField fs 0 = some f) (hvalid : PercentValid f.value)
    (hm : m.read str (formBody fs).length = formBody fs) :
    ∃ line, GeneratesLines b m str (-1 :: fieldOffsets 0 fs) line
        (pathPrefix ++ (f.value ++ pathSuffix)) ∧
      line 0 = 34 :: (percentDecode f.value ++ [34, 10]) := by
  have hcount : (-1 :: fieldOffsets 0 fs).length / 2 = fs.length := by
    rw [List.length_cons, length_fieldOffsets]
    omega
  have htable := table_of_formBody fs hm
  have hlines := generatesLines_table m str b fs.length hcount
    (valuesOrdered_of_offsetsFrom fs 0 0 (offsetsFrom_zero fs))
  have hpath : pathLine fs = pathPrefix ++ (f.value ++ pathSuffix) := by
    simp only [pathLine, hf]
  rw [dictLine_eq_pathLine htable, hpath] at hlines
  refine ⟨_, hlines, ?_⟩
  rcases sentField_shows htable 0 with ⟨-, hnone⟩ | ⟨g, f', hg, hf', hvalue⟩
  · rw [hf] at hnone
    cases hnone
  · rw [hf] at hf'
    cases hf'
    simp only [quotedLine, hg, hvalue,
      (renders_rawDecode g.next g.afterNext f.value).eq_of_valid hvalid]

lemma namesAgree_iff_decode (fs : List FormField) {f : FormField}
    (hf : knownField fs 0 = some f) (hvalid : PercentValid f.value) (hcount : fs.length ≤ 15)
    (hlen : (formBody fs).length + 16 < 32767)
    (hm : m.read str (formBody fs).length = formBody fs) :
    NamesAgree b m str (formBody fs).length ↔ percentDecode f.value = f.value := by
  have hne : fs ≠ [] := by
    rintro rfl
    simp [knownField] at hf
  have hsplit := simdSplitEfficient_eq b hm hlen (splitOffsets_of_fields hne)
  obtain ⟨line, hlines, hline⟩ := generatesLines_formBody (b := b) hf hvalid (read_afterSplit b hm)
  constructor
  · rintro ⟨m', off, line', path', name, hsplit', -, hlines', hline', rfl⟩
    rw [hsplit] at hsplit'
    cases hsplit'
    have hfirst := hlines.line_unique hlines' 0
    rw [hline, hline', List.cons.injEq] at hfirst
    have hpath := List.append_cancel_left (hlines.path_unique hlines')
    rw [List.append_cancel_right hfirst.2, List.append_cancel_right hpath]
  · intro hself
    refine ⟨_, _, line, _, f.value, hsplit, ?_, hlines, by rw [hline, hself], rfl⟩
    rw [List.length_cons, length_fieldOffsets, offCapacity]
    omega

/-- The two copies agree exactly when the value of the interface holds no escape. -/
theorem namesAgree_iff (fs : List FormField) {f : FormField} (hf : knownField fs 0 = some f)
    (hvalid : PercentValid f.value) (hcount : fs.length ≤ 15)
    (hlen : (formBody fs).length + 16 < 32767)
    (hm : m.read str (formBody fs).length = formBody fs) :
    NamesAgree b m str (formBody fs).length ↔ 37 ∉ f.value := by
  rw [namesAgree_iff_decode fs hf hvalid hcount hlen hm]
  exact percentDecode_eq_self_iff hvalid

end

/-- `interface=a%2Eb`. -/
def escapedDot : FormField := postField 0 (ascii ['a', '%', '2', 'E', 'b']) (by decide)

lemma escapedDot_valid : PercentValid escapedDot.value :=
  (((percentValid_of_notMem (v := [98]) (by decide)).cons_escape (d := 50) (l := 69)
    (by decide) (by decide)).cons (c := 97) (by decide))

theorem namesAgree_dot :
    NamesAgree .sse42 (Mem.write (fun _ => 0) 12 (formBody [postField 0 [97, 46, 98] (by decide)]))
        12 (formBody [postField 0 [97, 46, 98] (by decide)]).length ↔
      (37 : UInt8) ∉ ([97, 46, 98] : List UInt8) :=
  namesAgree_iff [postField 0 [97, 46, 98] (by decide)]
    (f := postField 0 [97, 46, 98] (by decide)) rfl (percentValid_of_notMem (by decide)) (by decide)
    (by decide) (Mem.read_write_self _ _ _ _ rfl)

/-- The line holds `a.b`, the path attachment `a%2Eb`. -/
theorem escapedDot_disagrees :
    knownField [escapedDot] 0 = some escapedDot ∧ PercentValid escapedDot.value ∧
      ¬ NamesAgree .plain (Mem.write (fun _ => 0) 12 (formBody [escapedDot])) 12
        (formBody [escapedDot]).length := by
  refine ⟨rfl, escapedDot_valid, fun h => ?_⟩
  rw [namesAgree_iff_decode [escapedDot] (f := escapedDot) rfl escapedDot_valid (by decide)
    (by decide) (Mem.read_write_self _ _ _ _ rfl)] at h
  exact absurd h (by decide)

end MeshAgent.Proofs
