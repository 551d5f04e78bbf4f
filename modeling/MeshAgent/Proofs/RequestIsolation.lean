import MeshAgent.Proofs.Transcoding

/-!
# What a package depends on

Of the fields of a body only the last one is followed by bytes of something else. The decoder
looks at them when the end of the value cuts off an escape.
-/

namespace MeshAgent.Proofs
open MeshAgent.Foundations MeshAgent.Model

/-- `generate_res_in_place` writes the package and returns its size. -/
def Generates (b : Build) (res m : Mem UInt8) (str len reqId : Int) (package : List UInt8) :
    Prop :=
  ∃ m', generateResInPlace b res m str len reqId =
    some (m', res.write 0 package, (package.length : Int))

/-- Two buffers that hold the body and differ behind it give the same package. -/
def RequestIsolated (b : Build) (body : List UInt8) (reqId : Int) : Prop :=
  ∀ (m m' res : Mem UInt8) (str : Int), m.read str body.length = body →
    (∀ x < str + body.length, m' x = m x) →
      ∃ package, Generates b res m str body.length reqId package ∧
        Generates b res m' str body.length reqId package

/-- The end of the value cuts off its last escape. -/
def cutOff : List UInt8 → Bool
  | [] => false
  | c :: v =>
    if c = 37 then
      match v with
      | _ :: _ :: v => cutOff v
      | _ => true
    else cutOff v

section Values

variable {x y x' y' : UInt8}

lemma cutOff_escape (h l : UInt8) (v : List UInt8) : cutOff (37 :: h :: l :: v) = cutOff v := by
  rw [cutOff.eq_def]
  simp only [if_true]

lemma cutOff_cons {c : UInt8} (hc : c ≠ 37) (v : List UInt8) : cutOff (c :: v) = cutOff v := by
  rw [cutOff.eq_def]
  simp only [if_neg hc]

lemma length_rawDecode (x y : UInt8) (v : List UInt8) :
    (rawDecode x y v).length = (percentDecode v).length :=
  (renders_rawDecode x y v).length_eq

lemma rawDecode_congr {v : List UInt8} (hcut : cutOff v = false) :
    rawDecode x y v = rawDecode x' y' v := by
  induction v using cutOff.induct with
  | case1 => rw [rawDecode_nil, rawDecode_nil]
  | case2 h l v ih =>
    rw [cutOff_escape] at hcut
    rw [rawDecode_escape, rawDecode_escape, ih hcut]
  | case3 v hshort =>
    rcases v with _ | ⟨h, _ | ⟨l, v⟩⟩
    · simp [cutOff] at hcut
    · simp [cutOff] at hcut
    · exact absurd rfl (hshort h l v)
  | case4 c v hc ih =>
    rw [cutOff_cons hc] at hcut
    rw [rawDecode_cons hc, rawDecode_cons hc, ih hcut]

lemma hexByte_low_ne_of_fin : ∀ h : Fin 256,
    hexByte (UInt8.ofNat h) 48 ≠ hexByte (UInt8.ofNat h) 49 := by
  decide +kernel

lemma hexByte_low_ne (h : UInt8) : hexByte h 48 ≠ hexByte h 49 := by
  have hne := hexByte_low_ne_of_fin ⟨h.toNat, h.toNat_lt⟩
  simpa using hne

lemma rawDecode_ne {v : List UInt8} (hcut : cutOff v = true) :
    rawDecode 48 48 v ≠ rawDecode 49 48 v := by
  induction v using cutOff.induct with
  | case1 => simp [cutOff] at hcut
  | case2 h l v ih =>
    rw [cutOff_escape] at hcut
    rw [rawDecode_escape, rawDecode_escape]
    exact fun heq => ih hcut (List.cons.inj heq).2
  | case3 v hshort =>
    rcases v with _ | ⟨h, _ | ⟨l, v⟩⟩
    · rw [rawDecode_cut_two, rawDecode_cut_two]
      decide
    · rw [rawDecode_cut_one, rawDecode_cut_one]
      exact fun heq => hexByte_low_ne h (List.cons.inj heq).1
    · exact absurd rfl (hshort h l v)
  | case4 c v hc ih =>
    rw [cutOff_cons hc] at hcut
    rw [rawDecode_cons hc, rawDecode_cons hc]
    exact fun heq => ih hcut (List.cons.inj heq).2

end Values

section Tables

variable {front : List FieldBytes} {f f' : FieldBytes}

lemma sentField_concat (j : Fin 4) : sentField (front ++ [f]) j =
    (sentField front j).or (if f.key = postKeys j then some f else none) := by
  rw [sentField, List.find?_append, List.find?_singleton, sentField]
  simp only [beq_iff_eq]

/-- Only a line that is taken from the last field can differ. -/
lemma quotedLine_concat_congr (hkey : f.key = f'.key) (j : Fin 4)
    (hlast : f.key = postKeys j → sentField front j = none →
      rawDecode f.next f.afterNext f.value = rawDecode f'.next f'.afterNext f'.value) :
    quotedLine (front ++ [f]) j = quotedLine (front ++ [f']) j := by
  rw [quotedLine, quotedLine, sentField_concat, sentField_concat, ← hkey]
  cases hfront : sentField front j with
  | some g => simp
  | none =>
    by_cases hj : f.key = postKeys j
    · simp only [hj, if_true, Option.none_or, hlast hj hfront]
    · simp [hj]

lemma dictLine_concat_congr (hkey : f.key = f'.key) (hvalue : f.value = f'.value) :
    dictLine (front ++ [f]) = dictLine (front ++ [f']) := by
  rw [dictLine, dictLine, sentField_concat, sentField_concat, ← hkey]
  cases hfront : sentField front 0 with
  | some g => simp
  | none => by_cases hj : f.key = postKeys 0 <;> simp [hj, hvalue]

lemma length_quotedLine_concat (hkey : f.key = f'.key) (hvalue : f.value = f'.value) (j : Fin 4) :
    (quotedLine (front ++ [f]) j).length = (quotedLine (front ++ [f']) j).length := by
  rw [quotedLine, quotedLine, sentField_concat, sentField_concat, ← hkey]
  cases hfront : sentField front j with
  | some g => simp
  | none => by_cases hj : f.key = postKeys j <;> simp [hj, hvalue, length_rawDecode]

lemma quotedLine_eq_of_serializedBody {table table' : List FieldBytes}
    (hlen : ∀ j, (quotedLine table j).length = (quotedLine table' j).length)
    (h : serializedBody table = serializedBody table') (j : Fin 4) :
    quotedLine table j = quotedLine table' j := by
  rw [serializedBody, serializedBody] at h
  obtain ⟨h0, h⟩ := List.append_inj (List.append_cancel_left h) (hlen 0)
  obtain ⟨h1, h⟩ := List.append_inj (List.append_cancel_left h) (hlen 1)
  obtain ⟨h2, h⟩ := List.append_inj h (hlen 2)
  obtain ⟨h3, -⟩ := List.append_inj h (hlen 3)
  rcases j with ⟨_ | _ | _ | _ | k, hk⟩
  · exact h0
  · exact h1
  · exact h2
  · exact h3
  · omega

lemma serializedBody_concat_congr (hkey : f.key = f'.key) (hvalue : f.value = f'.value)
    (hlast : ∀ j, f.key = postKeys j → sentField front j = none →
      rawDecode f.next f.afterNext f.value = rawDecode f'.next f'.afterNext f'.value) :
    serializedBody (front ++ [f]) = serializedBody (front ++ [f']) := by
  simp only [serializedBody, dictLine_concat_congr hkey hvalue,
    quotedLine_concat_congr hkey _ (hlast _)]

end Tables

/-! ### The table of a body -/

section Body

variable {body : List UInt8} {off : List Int}

/-- The fields of a body, in front of zeros. -/
def bodyFields (body : List UInt8) (off : List Int) : List FieldBytes :=
  fieldTable (Mem.write (fun _ => 0) 0 body) 0 (-1 :: off) (off.length / 2) 0

/-- The last field of the body is sent, and the end of the body cuts off its last escape. -/
def EndsCutOff (body : List UInt8) : Prop :=
  ∃ off front f j, SplitOffsets body 0 off ∧ bodyFields body off = front ++ [f] ∧
    f.key = postKeys j ∧ sentField front j = none ∧ cutOff f.value = true

lemma apply_eq_of_read {m m' : Mem UInt8} {str str' : Int} (hm : m.read str body.length = body)
    (hm' : m'.read str' body.length = body) {x : Int} (hx : 0 ≤ x) (hlt : x < body.length) :
    m (str + x) = m' (str' + x) := by
  have h := Mem.apply_of_read_eq hm (str + x) (by omega) (by omega)
  have h' := Mem.apply_of_read_eq hm' (str' + x) (by omega) (by omega)
  rw [add_sub_cancel_left] at h h'
  exact Option.some.inj (h.symm.trans h')

lemma fieldTable_of_splitOffsets (hoff : SplitOffsets body 0 off) :
    ∃ front f, bodyFields body off = front ++ [f] ∧ ∀ (m : Mem UInt8) (str : Int),
      m.read str body.length = body →
        fieldTable m str (-1 :: off) (off.length / 2) 0 =
          front ++ [⟨f.key, f.value, m (str + body.length), m (str + (body.length + 1))⟩] := by
  obtain ⟨n, hn⟩ : ∃ n, off.length / 2 = n + 1 :=
    ⟨off.length / 2 - 1, by have := hoff.length_even.2; omega⟩
  have hspan : ∀ k, k < n + 1 → FieldSpan body.length (-1 :: off) (n + 1) k := fun k hk =>
    hn ▸ hoff.fieldSpan (p := -1) le_rfl (by omega) (by omega) k (by omega)
  have hconcat : ∀ (m : Mem UInt8) (str : Int), fieldTable m str (-1 :: off) (n + 1) 0 =
      fieldTable m str (-1 :: off) n 0 ++ [fieldBytes m str (-1 :: off) n] := by
    intro m str
    rw [fieldTable, List.range'_concat, List.map_append, fieldTable]
    simp
  have hread : ∀ (m : Mem UInt8) (str : Int), m.read str body.length = body → ∀ a c : Int,
      -1 ≤ a → c ≤ body.length → m.read (str + (a + 1)) (c - (a + 1)).toNat =
        (Mem.write (fun _ => 0) 0 body).read (0 + (a + 1)) (c - (a + 1)).toNat := by
    intro m str hm a c ha hc
    apply Mem.read_congr
    intro k hk
    rw [add_assoc str, add_assoc (0 : Int)]
    exact apply_eq_of_read hm (Mem.read_write_self _ _ _ _ rfl) (by omega) (by omega)
  refine ⟨fieldTable (Mem.write (fun _ => 0) 0 body) 0 (-1 :: off) n 0,
    fieldBytes (Mem.write (fun _ => 0) 0 body) 0 (-1 :: off) n, ?_, fun m str hm => ?_⟩
  · rw [bodyFields, hn, hconcat]
  · rw [hn, hconcat]
    congr 1
    · apply List.map_congr_left
      intro k hk
      have hkn : k < n := by
        rw [List.mem_range'_1] at hk
        omega
      obtain ⟨hbeg, hkey, hvalue, -, hnext, -⟩ := hspan k (by omega)
      have hin := hnext (by omega)
      simp only [fieldBytes]
      rw [hread m str hm _ _ hbeg (by omega), hread m str hm _ _ (by omega) (by omega),
        apply_eq_of_read hm (Mem.read_write_self _ _ _ _ rfl) (by omega) (by omega),
        apply_eq_of_read hm (Mem.read_write_self _ _ _ _ rfl) (by omega) (by omega)]
    · obtain ⟨hbeg, hkey, hvalue, hend, -, hlast⟩ := hspan n (by omega)
      simp only [fieldBytes]
      rw [hread m str hm _ _ hbeg (by omega), hread m str hm _ _ (by omega) (by omega),
        hlast rfl]

lemma generates_iff (b : Build) (hshort : body.length + 16 < 32767)
    (hoff : SplitOffsets body 0 off) (hcount : off.length / 2 ≤ 15) {m : Mem UInt8} {str : Int}
    (hm : m.read str body.length = body) (res : Mem UInt8) (reqId : Int) (package : List UInt8) :
    Generates b res m str body.length reqId package ↔
      package = serializedPackage (fieldTable (afterSplit b m str body.length) str (-1 :: off)
        (off.length / 2) 0) reqId := by
  have hgen := generateResInPlace_eq_serializedPackage b hm hshort hoff hcount res reqId
  constructor
  · rintro ⟨m', h⟩
    rw [hgen] at h
    simp only [Option.some.injEq, Prod.mk.injEq] at h
    obtain ⟨-, hwrite, hsize⟩ := h
    exact (Mem.write_injective res 0 (by omega) hwrite).symm
  · rintro rfl
    exact ⟨_, hgen⟩

lemma requestIsolated_iff_serializedBody (b : Build) (hshort : body.length + 16 < 32767)
    (hoff : SplitOffsets body 0 off) (hcount : off.length / 2 ≤ 15) (reqId : Int) :
    RequestIsolated b body reqId ↔ ∀ (m m' : Mem UInt8) (str : Int),
      m.read str body.length = body → (∀ x < str + body.length, m' x = m x) →
        serializedBody (fieldTable (afterSplit b m str body.length) str (-1 :: off)
            (off.length / 2) 0) =
          serializedBody (fieldTable (afterSplit b m' str body.length) str (-1 :: off)
            (off.length / 2) 0) := by
  constructor
  · intro hiso m m' str hm hagree
    obtain ⟨package, hpackage, hpackage'⟩ := hiso m m' m str hm hagree
    rw [generates_iff b hshort hoff hcount hm] at hpackage
    rw [generates_iff b hshort hoff hcount (Mem.read_of_agree hm hagree), hpackage] at hpackage'
    exact (List.append_inj hpackage' (by simp)).2
  · intro hsame m m' res str hm hagree
    refine ⟨_, (generates_iff b hshort hoff hcount hm res reqId _).mpr rfl,
      (generates_iff b hshort hoff hcount (Mem.read_of_agree hm hagree) res reqId _).mpr ?_⟩
    rw [serializedPackage, serializedPackage, hsame m m' str hm hagree]

lemma afterSplit_bmi_behind (m : Mem UInt8) (str : Int) (len k : Nat) (hk : k < 16) :
    afterSplit .bmi m str len (str + (len + (k : Int))) = 0 := by
  rw [afterSplit, ← add_assoc]
  exact Mem.write_replicate_apply _ _ _ hk

lemma write_behind (b : Build) (hb : b ≠ .bmi) (body : List UInt8) (x y : UInt8) :
    (Mem.write (fun _ => 0) 0 (body ++ [x, y])).read 0 body.length = body ∧
      afterSplit b (Mem.write (fun _ => 0) 0 (body ++ [x, y])) 0 body.length (0 + body.length) = x ∧
      afterSplit b (Mem.write (fun _ => 0) 0 (body ++ [x, y])) 0 body.length
        (0 + (body.length + 1)) = y := by
  obtain ⟨hbody, hbehind⟩ := (Mem.read_append_iff _ 0 body [x, y]).mp
    (Mem.read_write_self (fun _ => 0) 0 (body ++ [x, y]) _ rfl)
  simp only [List.length_cons, List.length_nil, Mem.read_succ, List.cons.injEq] at hbehind
  rw [afterSplit_of_ne_bmi hb, ← add_assoc]
  exact ⟨hbody, hbehind.1, hbehind.2.1⟩

lemma not_requestIsolated_of_endsCutOff (b : Build) (hb : b ≠ .bmi)
    (hshort : body.length + 16 < 32767)
    (hcount : ∀ off, SplitOffsets body 0 off → off.length / 2 ≤ 15) (reqId : Int)
    (hends : EndsCutOff body) : ¬ RequestIsolated b body reqId := by
  obtain ⟨off, front', f', j, hoff, hfields, hkey, hnone, hcut⟩ := hends
  obtain ⟨front, f, hfields', htable⟩ := fieldTable_of_splitOffsets hoff
  obtain ⟨rfl, hf⟩ := List.append_inj' (hfields.symm.trans hfields') rfl
  obtain rfl := List.singleton_inj.mp hf
  rw [requestIsolated_iff_serializedBody b hshort hoff (hcount off hoff)]
  intro hsame
  obtain ⟨hm, hx, hy⟩ := write_behind b hb body 48 48
  obtain ⟨hm', hx', hy'⟩ := write_behind b hb body 49 48
  have hbodies := hsame _ (Mem.write (fun _ => 0) 0 (body ++ [49, 48])) 0 hm (fun x hlt => by
    rw [← Mem.write_write_append _ 0 (0 + (body.length : Int)) _ _ rfl,
      ← Mem.write_write_append _ 0 (0 + (body.length : Int)) _ _ rfl,
      Mem.write_apply_of_lt _ _ _ _ hlt, Mem.write_apply_of_lt _ _ _ _ hlt])
  rw [htable _ _ (read_afterSplit b hm), htable _ _ (read_afterSplit b hm'), hx, hy, hx', hy']
    at hbodies
  have hline := quotedLine_eq_of_serializedBody
    (fun k => length_quotedLine_concat (by rfl) (by rfl) k) hbodies j
  simp only [quotedLine, sentField_concat, hnone, hkey, if_true, Option.none_or, List.cons.injEq,
    true_and] at hline
  exact rawDecode_ne hcut (List.append_cancel_right hline)

lemma requestIsolated_of_not_endsCutOff (b : Build) (hshort : body.length + 16 < 32767)
    (hoff : SplitOffsets body 0 off) (hcount : off.length / 2 ≤ 15) (reqId : Int)
    (h : b = .bmi ∨ ¬ EndsCutOff body) : RequestIsolated b body reqId := by
  rw [requestIsolated_iff_serializedBody b hshort hoff hcount]
  intro m m' str hm hagree
  obtain ⟨front, f, hfields, htable⟩ := fieldTable_of_splitOffsets hoff
  rw [htable _ _ (read_afterSplit b hm),
    htable _ _ (read_afterSplit b (Mem.read_of_agree hm hagree))]
  refine serializedBody_concat_congr rfl rfl (fun j hkey hnone => ?_)
  rcases h with rfl | hends
  · have hx := fun m => afterSplit_bmi_behind m str body.length 0 (by decide)
    have hy := fun m => afterSplit_bmi_behind m str body.length 1 (by decide)
    simp only [Nat.cast_zero, Nat.cast_one, add_zero] at hx hy
    rw [hx, hx, hy, hy]
  · apply rawDecode_congr
    by_contra hcut
    exact hends ⟨off, front, f, j, hoff, hfields, hkey, hnone, by simpa using hcut⟩

/-- Of the bodies that are split, the package depends on the body alone exactly if no escape
of a last field that is sent is cut off, or the build leaves zeros behind the body. -/
theorem requestIsolated_iff (b : Build) (body : List UInt8) (hshort : body.length + 16 < 32767)
    (heq : 61 ∈ body) (hamp : NoAmpAfterLastEq body)
    (hcount : ∀ off, SplitOffsets body 0 off → off.length / 2 ≤ 15) (reqId : Int) :
    RequestIsolated b body reqId ↔ b = .bmi ∨ ¬ EndsCutOff body := by
  obtain ⟨off, hoff⟩ := exists_splitOffsets_of_noAmp body heq hamp
  refine ⟨fun hiso => ?_, requestIsolated_of_not_endsCutOff b hshort hoff (hcount off hoff) reqId⟩
  by_contra h
  push Not at h
  exact not_requestIsolated_of_endsCutOff b h.1 hshort hcount reqId h.2 hiso

lemma SplitOffsets.count_le {i : Nat} (h : SplitOffsets body i off) :
    off.length / 2 ≤ body.length - i := by
  induction h with
  | last he _ =>
    have := he.le
    have := he.lt_length
    simp
    omega
  | more he hs hlt _ ih =>
    have := stop_lt_of_amp he hs
    simp only [List.length_cons]
    omega

end Body

/-- `method=` and a `%` that the end of the body cuts off. -/
def cutField : List FormField := [postField 1 [37] (by decide)]

lemma cutField_endsCutOff : EndsCutOff (formBody cutField) :=
  ⟨_, [], ⟨postKeys 1, [37], 0, 0⟩, 1, splitOffsets_of_fields (by simp [cutField]), rfl, rfl, rfl,
    rfl⟩

/-- `a=1&method=%41`. -/
def escapedLastField : List UInt8 :=
  ([97, 61, 49, 38] ++ postKeys 1) ++ 61 :: ascii ['%', '4', '1']

theorem requestIsolated_escaped :
    RequestIsolated .plain escapedLastField 7 ↔
      Build.plain = .bmi ∨ ¬ EndsCutOff escapedLastField :=
  requestIsolated_iff .plain escapedLastField (by decide) (by decide)
    (noAmpAfterLastEq_append ([97, 61, 49, 38] ++ postKeys 1) (ascii ['%', '4', '1']) (by decide)
      (by decide))
    (fun _ hoff => le_trans hoff.count_le (by decide)) 7

theorem cutField_leaks :
    61 ∈ formBody cutField ∧ NoAmpAfterLastEq (formBody cutField) ∧
      ¬ RequestIsolated .sse42 (formBody cutField) 7 ∧
      ¬ RequestIsolated .plain (formBody cutField) 7 := by
  have hcount : ∀ off, SplitOffsets (formBody cutField) 0 off → off.length / 2 ≤ 15 :=
    fun _ hoff => le_trans hoff.count_le (by decide)
  exact ⟨by decide, noAmpAfterLastEq_append (postKeys 1) [37] (by decide) (by decide),
    not_requestIsolated_of_endsCutOff .sse42 (by decide) (by decide) hcount 7 cutField_endsCutOff,
    not_requestIsolated_of_endsCutOff .plain (by decide) (by decide) hcount 7 cutField_endsCutOff⟩

end MeshAgent.Proofs
