import MeshAgent.Proofs.FormBody
import MeshAgent.Proofs.Serialization

/-!
# From a form body to a Dubbo package

`dubboPackage` says what the package for a form body is. On every build
`generate_res_in_place` writes it, and changes nothing else but, on the first build, the
16 bytes behind the body.
-/

namespace MeshAgent.Proofs
open MeshAgent.Foundations MeshAgent.Model

lemma eq_notMem_postKeys : ∀ k, 61 ∉ postKeys k := by decide

lemma amp_notMem_postKeys : ∀ k, 38 ∉ postKeys k := by decide

/-- A field with one of the keys that are sent. -/
def postField (k : Fin 4) (value : List UInt8) (h : 38 ∉ value) : FormField :=
  ⟨postKeys k, value, eq_notMem_postKeys k, amp_notMem_postKeys k, h⟩

/-- The first field with the key `post_keys[j]`. -/
def knownField (fs : List FormField) (j : Fin 4) : Option FormField :=
  fs.find? (fun f => f.key == postKeys j)

/-- The decoded value between quotes and a newline, or nothing. -/
def knownLine (fs : List FormField) (j : Fin 4) : List UInt8 :=
  match knownField fs j with
  | none => []
  | some f => 34 :: (percentDecode f.value ++ [34, 10])

/-- `{"path":"..."}` with the raw value of `interface`, or nothing. -/
def pathLine (fs : List FormField) : List UInt8 :=
  match knownField fs 0 with
  | none => []
  | some f => pathPrefix ++ (f.value ++ pathSuffix)

/-- The lines of the package. -/
def dubboBody (fs : List FormField) : List UInt8 :=
  dubboVersion ++ (knownLine fs 0 ++ (nullLine ++ (knownLine fs 1 ++ (knownLine fs 2 ++
    (knownLine fs 3 ++ pathLine fs)))))

def dubboPackage (fs : List FormField) (reqId : Int) : List UInt8 :=
  dubboHeader reqId (dubboBody fs).length ++ dubboBody fs

/-- In the value of every known field each `%` begins an escape. -/
def KnownValid (fs : List FormField) : Prop :=
  ∀ j f, knownField fs j = some f → PercentValid f.value

lemma knownValid_of_forall {fs : List FormField} (h : ∀ f ∈ fs, PercentValid f.value) :
    KnownValid fs :=
  fun _ f hf => h f (List.mem_of_find?_eq_some hf)

section Fields

variable {m : Mem UInt8} {str : Int}

/-- Where the parts of the first of the fields lie that begin at `p`. -/
structure FieldAt (m : Mem UInt8) (str : Int) (p : Nat) (f : FormField) (fs : List FormField) :
    Prop where
  key : m.read (str + p) f.key.length = f.key
  value : m.read (str + (p + f.key.length + 1 : Nat)) f.value.length = f.value
  rest : m.read (str + (p + f.bytes.length + 1 : Nat)) (formBody fs).length = formBody fs

lemma fieldAt_of_read {p : Nat} {f : FormField} {fs : List FormField}
    (hm : m.read (str + p) (formBody (f :: fs)).length = formBody (f :: fs)) :
    FieldAt m str p f fs := by
  obtain ⟨post, hbody, hpost⟩ := formBody_cons f fs
  have hcons : ∀ (c : UInt8) (v : List UInt8), c :: v = [c] ++ v := fun _ _ => rfl
  rw [hbody, hcons 61] at hm
  obtain ⟨hkey, hm⟩ := (Mem.read_append_iff m _ _ _).mp hm
  obtain ⟨-, hm⟩ := (Mem.read_append_iff m _ _ _).mp hm
  obtain ⟨hvalue, hm⟩ := (Mem.read_append_iff m _ _ _).mp hm
  have hvalueAt : str + ((p + f.key.length + 1 : Nat) : Int) =
      str + (p : Int) + (f.key.length : Int) + (([61] : List UInt8).length : Int) := by
    rw [List.length_singleton]
    push_cast
    omega
  refine ⟨hkey, by rw [hvalueAt]; exact hvalue, ?_⟩
  rcases hpost with ⟨rfl, -⟩ | ⟨-, rfl⟩
  · rfl
  · rw [hcons 38] at hm
    obtain ⟨-, hm⟩ := (Mem.read_append_iff m _ _ _).mp hm
    have hrestAt : str + ((p + f.bytes.length + 1 : Nat) : Int) =
        str + (p : Int) + (f.key.length : Int) + (([61] : List UInt8).length : Int) +
          (f.value.length : Int) + (([38] : List UInt8).length : Int) := by
      rw [f.length_bytes, List.length_singleton, List.length_singleton]
      push_cast
      omega
    rw [hrestAt]
    exact hm

lemma knownField_cons_pos {f : FormField} {fs : List FormField} {j : Fin 4}
    (h : (f.key == postKeys j) = true) : knownField (f :: fs) j = some f := by
  simp only [knownField, List.find?_cons, h]

lemma knownField_cons_neg {f : FormField} {fs : List FormField} {j : Fin 4}
    (h : ¬ (f.key == postKeys j) = true) : knownField (f :: fs) j = knownField fs j := by
  simp only [knownField, List.find?_cons, Bool.not_eq_true _ ▸ h]

/-- The offsets of the fields that begin at `p`, from index `2 * i` of the array on. -/
def OffsetsFrom (off : List Int) (i p : Nat) (fs : List FormField) : Prop :=
  off.drop (i * 2) = ((p : Int) - 1) :: fieldOffsets p fs

lemma getD_of_drop {off xs : List Int} {n : Nat} (h : off.drop n = xs) (k : Nat) :
    off.getD (n + k) 0 = xs.getD k 0 := by
  rw [← h, List.getD_eq_getElem?_getD, List.getD_eq_getElem?_getD, List.getElem?_drop]

namespace OffsetsFrom

variable {off : List Int} {i p : Nat} {f : FormField} {fs : List FormField}

lemma keyBeg (h : OffsetsFrom off i p (f :: fs)) : off.getD (i * 2) 0 + 1 = p := by
  have := getD_of_drop h 0
  simp only [Nat.add_zero, List.getD_cons_zero] at this
  omega

lemma keyEnd (h : OffsetsFrom off i p (f :: fs)) :
    off.getD (i * 2 + 1) 0 = ((p + f.key.length : Nat) : Int) := by
  have := getD_of_drop h 1
  simpa [fieldOffsets] using this

lemma valueEnd (h : OffsetsFrom off i p (f :: fs)) :
    off.getD (i * 2 + 2) 0 = ((p + f.bytes.length : Nat) : Int) := by
  have := getD_of_drop h 2
  simpa [fieldOffsets] using this

lemma next (h : OffsetsFrom off i p (f :: fs)) :
    OffsetsFrom off (i + 1) (p + f.bytes.length + 1) fs := by
  have hdrop : off.drop ((i + 1) * 2) = (off.drop (i * 2)).drop 2 := by
    rw [List.drop_drop, Nat.add_mul]
  rw [OffsetsFrom, hdrop, h, fieldOffsets]
  simp

end OffsetsFrom

end Fields

section Package

variable {m : Mem UInt8} {str : Int} {off : List Int}

/-- A field of the table with the key and the value of a field of the form. -/
def Shows (g : FieldBytes) (f : FormField) : Prop := g.key = f.key ∧ g.value = f.value

lemma fieldTable_shows (fs : List FormField) (i p : Nat) (hoff : OffsetsFrom off i p fs)
    (hm : m.read (str + p) (formBody fs).length = formBody fs) :
    List.Forall₂ Shows (fieldTable m str off fs.length i) fs := by
  induction fs generalizing i p with
  | nil => exact .nil
  | cons f fs ih =>
    have hf := fieldAt_of_read hm
    rw [List.length_cons, fieldTable_succ]
    refine .cons ⟨?_, ?_⟩ (ih _ _ hoff.next hf.rest)
    · have hlen : (((p + f.key.length : Nat) : Int) - (p : Int)).toNat = f.key.length := by omega
      simp only [fieldBytes, hoff.keyBeg, hoff.keyEnd, hlen, hf.key]
    · have hbeg : ((p + f.key.length : Nat) : Int) + 1 = ((p + f.key.length + 1 : Nat) : Int) := by
        push_cast
        rfl
      have hlen : (((p + f.bytes.length : Nat) : Int) -
          ((p + f.key.length + 1 : Nat) : Int)).toNat = f.value.length := by
        rw [f.length_bytes]
        omega
      simp only [fieldBytes, hoff.keyEnd, hoff.valueEnd, hbeg, hlen, hf.value]

lemma valuesOrdered_of_offsetsFrom (fs : List FormField) (i p : Nat)
    (hoff : OffsetsFrom off i p fs) : ValuesOrdered off fs.length i := by
  induction fs generalizing i p with
  | nil =>
    intro k hik hk
    simp at hk
    omega
  | cons f fs ih =>
    intro k hik hk
    by_cases hki : k = i
    · subst hki
      rw [hoff.keyEnd, hoff.valueEnd, f.length_bytes]
      push_cast
      omega
    · rw [List.length_cons] at hk
      exact ih _ _ hoff.next k (by omega) (by omega)

lemma sentField_shows {table : List FieldBytes} {fs : List FormField}
    (h : List.Forall₂ Shows table fs) (j : Fin 4) :
    sentField table j = none ∧ knownField fs j = none ∨
      ∃ g f, sentField table j = some g ∧ knownField fs j = some f ∧ g.value = f.value := by
  induction h with
  | nil => exact .inl ⟨rfl, rfl⟩
  | @cons g f table fs hgf _ ih =>
    by_cases hkey : (f.key == postKeys j) = true
    · exact .inr ⟨g, f, sentField_cons_pos (by rw [hgf.1, hkey]), knownField_cons_pos hkey, hgf.2⟩
    · rwa [sentField_cons_neg (by rw [hgf.1]; exact hkey), knownField_cons_neg hkey]

lemma quotedLine_renders {table : List FieldBytes} {fs : List FormField}
    (h : List.Forall₂ Shows table fs) (j : Fin 4) :
    Renders (KnownValid fs) (quotedLine table j) (knownLine fs j) := by
  rcases sentField_shows h j with ⟨hg, hf⟩ | ⟨g, f, hg, hf, hvalue⟩
  · rw [quotedLine, hg, knownLine, hf]
    exact .refl _ _
  · rw [quotedLine, hg, knownLine, hf]
    have hdecode := renders_rawDecode g.next g.afterNext g.value
    rw [hvalue] at hdecode
    simp only [hvalue]
    exact (Renders.refl _ [34]).append
      ((hdecode.imp (fun hvalid => hvalid j f hf)).append (.refl _ [34, 10]))

lemma dictLine_eq_pathLine {table : List FieldBytes} {fs : List FormField}
    (h : List.Forall₂ Shows table fs) : dictLine table = pathLine fs := by
  rcases sentField_shows h 0 with ⟨hg, hf⟩ | ⟨g, f, hg, hf, hvalue⟩
  · rw [dictLine, hg, pathLine, hf]
  · simp only [dictLine, hg, pathLine, hf, hvalue]

lemma serializedBody_renders {table : List FieldBytes} {fs : List FormField}
    (h : List.Forall₂ Shows table fs) :
    Renders (KnownValid fs) (serializedBody table) (dubboBody fs) := by
  rw [serializedBody, dubboBody, dictLine_eq_pathLine h]
  have hline := quotedLine_renders h
  exact (Renders.refl _ _).append ((hline 0).append ((Renders.refl _ _).append
    ((hline 1).append ((hline 2).append ((hline 3).append (.refl _ _))))))

lemma offsetsFrom_zero (fs : List FormField) : OffsetsFrom (-1 :: fieldOffsets 0 fs) 0 0 fs := rfl

lemma table_of_formBody (fs : List FormField)
    (hm : m.read str (formBody fs).length = formBody fs) :
    List.Forall₂ Shows (fieldTable m str (-1 :: fieldOffsets 0 fs) fs.length 0) fs :=
  fieldTable_shows fs 0 0 (offsetsFrom_zero fs) (by simpa using hm)

theorem generateBody_eq (b : Build) (fs : List FormField)
    (hm : m.read str (formBody fs).length = formBody fs) (res : Mem UInt8) :
    ∃ body, Renders (KnownValid fs) body (dubboBody fs) ∧
      generateBody b res m str (-1 :: fieldOffsets 0 fs) (-1 :: fieldOffsets 0 fs).length =
        some (16 + (body.length : Int), res.write 16 body) := by
  have hcount : (-1 :: fieldOffsets 0 fs).length / 2 = fs.length := by
    rw [List.length_cons, length_fieldOffsets]
    omega
  have hord := valuesOrdered_of_offsetsFrom fs 0 0 (offsetsFrom_zero fs)
  have hgen := generateBody_eq_serializedBody m str b
    (-1 :: fieldOffsets 0 fs).length (hcount.symm ▸ hord.nameOrdered _ _) res
  rw [hcount] at hgen
  exact ⟨_, serializedBody_renders (table_of_formBody fs hm), hgen⟩

lemma length_dubboPackage (fs : List FormField) (reqId : Int) :
    (dubboPackage fs reqId).length = 16 + (dubboBody fs).length := by
  rw [dubboPackage, List.length_append, length_dubboHeader]

lemma splitOffsets_of_fields {fs : List FormField} (hne : fs ≠ []) :
    SplitOffsets (formBody fs) 0 (fieldOffsets 0 fs) := by
  have h := splitOffsets_formBody fs hne [] [] (by simp)
  simpa using h

/-- What `generate_res_in_place` does on a form body of at most 15 fields. -/
theorem generateResInPlace_eq (b : Build) (fs : List FormField) (hne : fs ≠ [])
    (hcount : fs.length ≤ 15) (hlen : (formBody fs).length ≤ 32750)
    (hm : m.read str (formBody fs).length = formBody fs) (res : Mem UInt8) (reqId : Int) :
    ∃ pkg, Renders (KnownValid fs) pkg (dubboPackage fs reqId) ∧
      generateResInPlace b res m str (formBody fs).length reqId =
        some (afterSplit b m str (formBody fs).length, res.write 0 pkg,
          (pkg.length : Int)) := by
  have hfields : (fieldOffsets 0 fs).length / 2 = fs.length := by
    rw [length_fieldOffsets]
    omega
  have hgen := generateResInPlace_eq_serializedPackage b hm (by omega) (splitOffsets_of_fields hne)
    (by omega) res reqId
  rw [hfields] at hgen
  have hbody := serializedBody_renders (table_of_formBody fs (read_afterSplit b hm))
  refine ⟨_, ⟨?_, ?_⟩, hgen⟩
  · rw [serializedPackage, dubboPackage, List.length_append, List.length_append,
      length_dubboHeader, length_dubboHeader, hbody.length_eq]
  · intro hvalid
    rw [serializedPackage, dubboPackage, hbody.eq_of_valid hvalid]

end Package

/-- On every build the transcoder writes the package of the form body, whatever follows
the body, and returns its size. -/
theorem generateResInPlace_package (b : Build) (fs : List FormField) (hne : fs ≠ [])
    (hcount : fs.length ≤ 15) (hlen : (formBody fs).length ≤ 32750)
    (hvalid : ∀ f ∈ fs, PercentValid f.value) (m res : Mem UInt8) (str reqId : Int)
    (hm : m.read str (formBody fs).length = formBody fs) :
    generateResInPlace b res m str (formBody fs).length reqId =
      some (afterSplit b m str (formBody fs).length, res.write 0 (dubboPackage fs reqId),
        ((dubboPackage fs reqId).length : Int)) := by
  obtain ⟨pkg, hpkg, hgen⟩ := generateResInPlace_eq b fs hne hcount hlen hm res reqId
  rw [hgen, hpkg.eq_of_valid (knownValid_of_forall hvalid)]

/-- `method=h%61sh` and an unknown key without a value. -/
def hashFields : List FormField :=
  [⟨ascii ['m', 'e', 't', 'h', 'o', 'd'], ascii ['h', '%', '6', '1', 's', 'h'],
      by decide, by decide, by decide⟩,
    ⟨ascii ['x'], [], by decide, by decide, by decide⟩]

lemma hashFields_valid : ∀ f ∈ hashFields, PercentValid f.value := by
  have hhash : PercentEncodes (fun c => c ≠ 37 ∧ c ≠ 97) (ascii ['h', '%', '6', '1', 's', 'h'])
      (ascii ['h', 'a', 's', 'h']) :=
    .plain (by decide) (.escape (by decide) (by decide) (by decide)
      (.plain (by decide) (.plain (by decide) .nil)))
  intro f hf
  simp only [hashFields, List.mem_cons, List.not_mem_nil, or_false] at hf
  rcases hf with rfl | rfl
  · exact hhash.valid (by decide)
  · exact (PercentEncodes.nil : PercentEncodes (fun _ => False) [] []).valid (by decide)

theorem generateResInPlace_package_hash :
    generateResInPlace .bmi (fun _ => 0) (Mem.write (fun _ => 61) 12 (formBody hashFields)) 12
        (formBody hashFields).length 7 =
      some (afterSplit .bmi (Mem.write (fun _ => 61) 12 (formBody hashFields)) 12
          (formBody hashFields).length,
        Mem.write (fun _ => 0) 0 (dubboPackage hashFields 7),
        ((dubboPackage hashFields 7).length : Int)) :=
  generateResInPlace_package .bmi hashFields (by decide) (by decide) (by decide) hashFields_valid
    _ _ 12 7 (Mem.read_write_self _ _ _ _ rfl)

example : dubboBody hashFields =
    dubboVersion ++ (nullLine ++ ascii ['"', 'h', 'a', 's', 'h', '"', '\n']) := by
  decide

end MeshAgent.Proofs
