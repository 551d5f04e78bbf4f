import MeshAgent.Foundations.PercentCoding
import MeshAgent.Proofs.Splitter

/-!
# What the serializers write

The serializers look into memory through the table of offsets only. Whatever the memory and
the table hold, what they write is determined by the bytes of the fields and the two bytes
behind each value, and is the same on every build.
-/

namespace MeshAgent.Proofs
open MeshAgent.Foundations MeshAgent.Model

/-- The byte that two characters are decoded to. -/
def hexByte (h l : UInt8) : UInt8 := UInt8.ofInt (hex2int h * 16 + hex2int l)

/-- What the decoder makes of a value that `x` and `y` follow: an escape that the end cuts
off takes its digits from there. -/
def rawDecode (x y : UInt8) : List UInt8 → List UInt8
  | [] => []
  | c :: v =>
    if c = 37 then
      match v with
      | h :: l :: v => hexByte h l :: rawDecode x y v
      | [h] => [hexByte h x]
      | [] => [hexByte x y]
    else c :: rawDecode x y v

section

variable {x y : UInt8}

lemma rawDecode_nil : rawDecode x y [] = [] := by
  rw [rawDecode]

lemma rawDecode_cons {c : UInt8} (hc : c ≠ 37) (v : List UInt8) :
    rawDecode x y (c :: v) = c :: rawDecode x y v := by
  rw [rawDecode.eq_def]
  simp only [if_neg hc]

lemma rawDecode_escape (h l : UInt8) (v : List UInt8) :
    rawDecode x y (37 :: h :: l :: v) = hexByte h l :: rawDecode x y v := by
  rw [rawDecode.eq_def]
  simp only [if_true]

lemma rawDecode_cut_one (h : UInt8) : rawDecode x y [37, h] = [hexByte h x] := by
  rw [rawDecode.eq_def]
  simp only [if_true]

lemma rawDecode_cut_two : rawDecode x y [37] = [hexByte x y] := by
  rw [rawDecode.eq_def]
  simp only [if_true]

lemma rawDecode_append {u : List UInt8} (hu : 37 ∉ u) (v : List UInt8) :
    rawDecode x y (u ++ v) = u ++ rawDecode x y v := by
  induction u with
  | nil => rfl
  | cons c u ih =>
    have hc : c ≠ 37 := fun h => hu (by simp [h])
    rw [List.cons_append, rawDecode_cons hc, ih (fun h => hu (List.mem_cons_of_mem _ h)),
      List.cons_append]

lemma rawDecode_self {u : List UInt8} (hu : 37 ∉ u) : rawDecode x y u = u := by
  have h := rawDecode_append (x := x) (y := y) hu []
  rwa [rawDecode_nil, List.append_nil] at h

end

/-- `out` has the length of `spec`, and is `spec` if `valid` holds. -/
structure Renders (valid : Prop) (out spec : List UInt8) : Prop where
  length_eq : out.length = spec.length
  eq_of_valid : valid → out = spec

lemma Renders.refl (valid : Prop) (out : List UInt8) : Renders valid out out :=
  ⟨rfl, fun _ => rfl⟩

lemma Renders.append {valid : Prop} {out out' spec spec' : List UInt8}
    (h : Renders valid out spec) (h' : Renders valid out' spec') :
    Renders valid (out ++ out') (spec ++ spec') :=
  ⟨by simp [h.length_eq, h'.length_eq],
    fun hv => by rw [h.eq_of_valid hv, h'.eq_of_valid hv]⟩

lemma Renders.imp {valid valid' : Prop} {out spec : List UInt8} (h : Renders valid out spec)
    (himp : valid' → valid) : Renders valid' out spec :=
  ⟨h.length_eq, fun hv => h.eq_of_valid (himp hv)⟩

lemma hex2int_eq_of_fin : ∀ c : Fin 256, (hexDigitValue (UInt8.ofNat c)).isSome = true →
    hex2int (UInt8.ofNat c) = ((hexDigitValue (UInt8.ofNat c)).getD 0 : Nat) := by
  decide +kernel

lemma hex2int_eq {c : UInt8} (h : (hexDigitValue c).isSome = true) :
    hex2int c = ((hexDigitValue c).getD 0 : Nat) := by
  have hc := hex2int_eq_of_fin ⟨c.toNat, c.toNat_lt⟩
  simp only [UInt8.ofNat_toNat] at hc
  exact hc h

lemma hexByte_eq_hexPair {h l : UInt8} (hh : (hexDigitValue h).isSome = true)
    (hl : (hexDigitValue l).isSome = true) : hexByte h l = hexPair h l := by
  rw [hexByte, hex2int_eq hh, hex2int_eq hl, hexPair]
  exact_mod_cast ofInt_natCast _

lemma renders_rawDecode (x y : UInt8) (v : List UInt8) :
    Renders (PercentValid v) (rawDecode x y v) (percentDecode v) := by
  induction v using percentDecode.induct with
  | case1 => rw [rawDecode_nil, percentDecode_nil]; exact .refl _ _
  | case2 h l v ih =>
    rw [rawDecode_escape, percentDecode_escape]
    refine ⟨by simp [ih.length_eq], fun hvalid => ?_⟩
    obtain ⟨h', l', rest, heq, hh, hl⟩ := hvalid.escape
    simp only [List.cons.injEq] at heq
    obtain ⟨rfl, rfl, rfl⟩ := heq
    rw [hexByte_eq_hexPair hh hl, ih.eq_of_valid (PercentValid.of_append (u := [37, h, l]) hvalid)]
  | case3 v hcut =>
    refine ⟨?_, fun hvalid => ?_⟩
    · rcases v with _ | ⟨h, _ | ⟨l, v⟩⟩
      · rw [rawDecode_cut_two, percentDecode_cut (by decide)]
        rfl
      · rw [rawDecode_cut_one, percentDecode_cut (by simp)]
        rfl
      · exact absurd rfl (hcut h l v)
    · obtain ⟨h, l, rest, rfl, -⟩ := hvalid.escape
      exact absurd rfl (hcut h l rest)
  | case4 c v hc ih =>
    rw [rawDecode_cons hc, percentDecode_cons hc]
    exact ⟨by simp [ih.length_eq], fun hvalid => by
      rw [ih.eq_of_valid (PercentValid.of_append (u := [c]) hvalid)]⟩

section Decode

variable {m : Mem UInt8} {str : Int}

lemma serialSeekPercent_eq {e fin : Int} (hef : e ≤ fin)
    (hhit : e < fin → m (str + e) = 37) (fuel : Nat) (seek : Int) (hle : seek ≤ e)
    (hfree : ∀ k, seek ≤ k → k < e → m (str + k) ≠ 37) (hfuel : (fin - seek).toNat < fuel) :
    serialSeekPercent m str fin fuel seek = some e := by
  induction fuel generalizing seek with
  | zero => omega
  | succ fuel ih =>
    rw [serialSeekPercent]
    by_cases hse : seek = e
    · subst hse
      rw [if_neg (fun h => h.2 (hhit h.1))]
    · rw [if_pos ⟨by omega, hfree seek le_rfl (by omega)⟩]
      exact ih (seek + 1) (by omega) (fun k hk => hfree k (by omega)) (by omega)

lemma seekPercent_eq (b : Build) {beg e fin : Int} (hlt : beg < fin) (hle : beg ≤ e)
    (hef : e ≤ fin) (hfree : ∀ k, beg ≤ k → k < e → m (str + k) ≠ 37)
    (hhit : e < fin → m (str + e) = 37) : seekPercent b m str fin beg = some e := by
  have hvector : ∀ tzcnt, LaneCount tzcnt →
      (simdSeek tzcnt id m str 37 (fun i => decide (fin ≤ i)) ((fin - beg).toNat + 1) beg).map
        (fun seek : Int => if fin < seek then fin else seek) = some e := by
    intro tzcnt htz
    obtain ⟨j, hj, hbj, hjfree, hjhit⟩ := simdSeek_until id (m := m) (c := 37)
      htz hlt (fun _ _ _ => rfl) ((fin - beg).toNat + 1) (by omega)
    have hclamp : (if fin < j then fin else j) = e := by
      by_cases hjf : j < fin
      · rw [if_neg (by omega)]
        rcases lt_trichotomy j e with h | h | h
        · exact absurd (hjhit hjf) (hfree j hbj h)
        · exact h
        · exact absurd (hhit (by omega)) (hjfree e hle h (by omega))
      · have hend : e = fin := by
          by_contra hne
          exact hjfree e hle (by omega) (by omega) (hhit (by omega))
        split <;> omega
    rw [hj, Option.map_some, hclamp]
  cases b with
  | bmi =>
    rw [seekPercent]
    exact hvector _ laneCount_tzcntU32
  | sse42 =>
    rw [seekPercent]
    exact hvector _ laneCount_usingPopcnt
  | plain =>
    rw [seekPercent]
    exact serialSeekPercent_eq hef hhit _ beg hle hfree (by omega)

lemma decodeLoop_done (b : Build) {fin lastSeek : Int} (h : fin ≤ lastSeek) {fuel : Nat}
    (hfuel : 0 < fuel) (offset : Int) (res : Mem UInt8) :
    decodeLoop b m str fin fuel lastSeek offset res = some (offset, res) := by
  obtain ⟨fuel, rfl⟩ : ∃ k, fuel = k + 1 := ⟨fuel - 1, by omega⟩
  rw [decodeLoop, if_neg (by omega)]

lemma seekPercent_block (b : Build) {u rest : List UInt8} {beg : Int}
    (hm : m.read (str + beg) (u ++ rest).length = u ++ rest) (hu : 37 ∉ u)
    (hrest : rest = [] ∨ ∃ t, rest = 37 :: t) (hne : u ++ rest ≠ []) :
    seekPercent b m str (beg + (u ++ rest).length) beg = some (beg + u.length) := by
  have hpos : 0 < (u ++ rest).length := List.length_pos_iff.mpr hne
  have hlen : (u ++ rest).length = u.length + rest.length := List.length_append
  obtain ⟨hmu, hmrest⟩ := (Mem.read_append_iff m _ u rest).mp hm
  apply seekPercent_eq b (by omega) (by omega) (by omega)
  · intro k hbk hk hc
    have hget := Mem.apply_of_read_eq hmu (str + k) (by omega) (by omega)
    rw [hc] at hget
    exact hu (List.mem_of_getElem? hget)
  · intro hlt
    rcases hrest with rfl | ⟨t, rfl⟩
    · simp at hlt
    · rw [List.length_cons, Mem.read_succ] at hmrest
      rw [← add_assoc]
      exact (List.cons.inj hmrest).1

lemma decodeLoop_copy (b : Build) {u : List UInt8} {beg : Int}
    (hm : m.read (str + beg) u.length = u) (hu : 37 ∉ u) {fuel : Nat} (hfuel : u.length < fuel)
    (offset : Int) (res : Mem UInt8) :
    decodeLoop b m str (beg + u.length) fuel beg offset res =
      some (offset + u.length, res.write offset u) := by
  by_cases hne : u = []
  · subst hne
    rw [decodeLoop_done b (by simp) (by omega)]
    simp
  · have hpos : 0 < u.length := List.length_pos_iff.mpr hne
    have hseek := seekPercent_block b (m := m) (u := u)
      (by simpa using hm) hu (.inl rfl) (by simpa using hne)
    rw [List.append_nil] at hseek
    have hadv : (beg + (u.length : Int) - beg).toNat = u.length := by omega
    obtain ⟨fuel, rfl⟩ : ∃ k, fuel = k + 1 := ⟨fuel - 1, by omega⟩
    rw [decodeLoop, if_pos (by omega)]
    simp only [hseek, Option.bind_eq_bind, Option.bind_some, hadv, hm]
    rw [if_neg (by simp), decodeLoop_done b le_rfl (by omega), add_sub_cancel_left]

lemma decodeLoop_escape (b : Build) {u t : List UInt8} {beg : Int}
    (hm : m.read (str + beg) (u ++ 37 :: t).length = u ++ 37 :: t) (hu : 37 ∉ u) (fuel : Nat)
    (offset : Int) (res : Mem UInt8) :
    decodeLoop b m str (beg + (u ++ 37 :: t).length) (fuel + 1) beg offset res =
      decodeLoop b m str (beg + (u ++ 37 :: t).length) fuel (beg + u.length + 3)
        (offset + u.length + 1)
        (res.write offset (u ++ [hexByte (m (str + (beg + u.length + 1)))
          (m (str + (beg + u.length + 2)))])) := by
  have hlen : (u ++ 37 :: t).length = u.length + (t.length + 1) := by simp
  have hseek := seekPercent_block b hm hu (.inr ⟨t, rfl⟩) (by simp)
  have hmu := ((Mem.read_append_iff m _ u _).mp hm).1
  have hadv : (beg + (u.length : Int) - beg).toNat = u.length := by omega
  rw [decodeLoop, if_pos (by omega)]
  simp only [hseek, Option.bind_eq_bind, Option.bind_some, hadv, hmu]
  rw [if_pos (by omega), add_sub_cancel_left, Mem.write_write_append _ _ _ _ _ rfl, hexByte]

/-- The loop writes the decoded value, an escape that is cut off with the two bytes behind. -/
theorem decodeLoop_eq (b : Build) (v : List UInt8) (beg : Int)
    (hm : m.read (str + beg) v.length = v) (fuel : Nat) (hfuel : v.length < fuel) (offset : Int)
    (res : Mem UInt8) :
    decodeLoop b m str (beg + v.length) fuel beg offset res =
      some (offset + (rawDecode (m (str + (beg + v.length))) (m (str + (beg + v.length + 1)))
          v).length,
        res.write offset (rawDecode (m (str + (beg + v.length))) (m (str + (beg + v.length + 1)))
          v)) := by
  obtain ⟨n, hn⟩ : ∃ n, n = v.length := ⟨_, rfl⟩
  induction n using Nat.strong_induction_on generalizing v beg fuel offset res with
  | _ n ih =>
    obtain ⟨u, rest, rfl, hu, rfl | ⟨t, rfl⟩⟩ := exists_percent_split v
    · rw [List.append_nil] at hm hfuel ⊢
      rw [decodeLoop_copy b hm hu hfuel offset res, rawDecode_self hu]
    · have hlen : (u ++ 37 :: t).length = u.length + (t.length + 1) := by simp
      obtain ⟨fuel, rfl⟩ : ∃ k, fuel = k + 1 := ⟨fuel - 1, by omega⟩
      rw [decodeLoop_escape b hm hu, rawDecode_append hu]
      obtain ⟨-, hmrest⟩ := (Mem.read_append_iff m _ u _).mp hm
      have hh : str + (beg + (u.length : Int) + 1) = str + beg + (u.length : Int) + 1 := by omega
      have hl : str + (beg + (u.length : Int) + 2) = str + beg + (u.length : Int) + 1 + 1 := by
        omega
      match t with
      | [] =>
        -- both digits are looked for behind the value
        have hx : str + (beg + ((u ++ [37]).length : Int)) =
            str + beg + (u.length : Int) + 1 := by
          rw [hlen, List.length_nil]
          push_cast
          omega
        have hy : str + (beg + ((u ++ [37]).length : Int) + 1) =
            str + beg + (u.length : Int) + 1 + 1 := by omega
        rw [rawDecode_cut_two, decodeLoop_done b (by simp; omega) (by omega), hh, hl, hx, hy,
          List.length_append, List.length_singleton, Nat.cast_add, Nat.cast_one, add_assoc]
      | [h] =>
        simp only [List.length_cons, Mem.read_succ, List.cons.injEq] at hmrest
        have hx : str + (beg + ((u ++ [37, h]).length : Int)) =
            str + beg + (u.length : Int) + 1 + 1 := by
          rw [hlen, List.length_singleton]
          push_cast
          omega
        rw [rawDecode_cut_one, decodeLoop_done b (by simp; omega) (by omega), hh, hl, hx,
          hmrest.2.1, List.length_append, List.length_singleton, Nat.cast_add, Nat.cast_one,
          add_assoc]
      | h :: l :: t =>
        simp only [List.length_cons, Mem.read_succ, List.cons.injEq] at hmrest
        obtain ⟨-, hmh, hml, hmt⟩ := hmrest
        have ht : str + (beg + (u.length : Int) + 3) =
            str + beg + (u.length : Int) + 1 + 1 + 1 := by omega
        have hfin : beg + ((u ++ 37 :: h :: l :: t).length : Int) =
            beg + (u.length : Int) + 3 + (t.length : Int) := by
          rw [hlen, List.length_cons, List.length_cons]
          push_cast
          omega
        rw [hh, hmh, hl, hml, hfin, rawDecode_escape,
          ih t.length (by simp at hlen; omega) t (beg + (u.length : Int) + 3)
            (by rw [ht]; exact hmt) fuel (by simp at hlen; omega) _ _ rfl,
          Mem.write_write_append _ _ _ _ _ (by simp; omega)]
        simp
        omega

end Decode

/-- What the serializers see of a field: its key, its value and the two bytes behind it. -/
structure FieldBytes where
  key : List UInt8
  value : List UInt8
  next : UInt8
  afterNext : UInt8

/-- Field `i` of the table `off`. -/
def fieldBytes (m : Mem UInt8) (str : Int) (off : List Int) (i : Nat) : FieldBytes :=
  let keyOffBeg := off.getD (i * 2) 0 + 1
  let keyOffEnd := off.getD (i * 2 + 1) 0
  let valOffBeg := keyOffEnd + 1
  let valOffEnd := off.getD (i * 2 + 2) 0
  { key := m.read (str + keyOffBeg) (keyOffEnd - keyOffBeg).toNat
    value := m.read (str + valOffBeg) (valOffEnd - valOffBeg).toNat
    next := m (str + valOffEnd)
    afterNext := m (str + (valOffEnd + 1)) }

/-- `n` fields of the table from field `i` on. -/
def fieldTable (m : Mem UInt8) (str : Int) (off : List Int) (n i : Nat) : List FieldBytes :=
  (List.range' i n).map (fieldBytes m str off)

/-- The first field with the key `post_keys[j]`. -/
def sentField (table : List FieldBytes) (j : Fin 4) : Option FieldBytes :=
  table.find? (fun f => f.key == postKeys j)

/-- What `serialize_str` writes. -/
def quotedLine (table : List FieldBytes) (j : Fin 4) : List UInt8 :=
  match sentField table j with
  | none => []
  | some f => 34 :: (rawDecode f.next f.afterNext f.value ++ [34, 10])

/-- What `serialize_path_dict` writes. -/
def dictLine (table : List FieldBytes) : List UInt8 :=
  match sentField table 0 with
  | none => []
  | some f => pathPrefix ++ (f.value ++ pathSuffix)

/-- The lines of the package. -/
def serializedBody (table : List FieldBytes) : List UInt8 :=
  dubboVersion ++ (quotedLine table 0 ++ (nullLine ++ (quotedLine table 1 ++
    (quotedLine table 2 ++ (quotedLine table 3 ++ dictLine table)))))

/-- The values of `n` fields from field `i` on do not end before they begin. -/
def ValuesOrdered (off : List Int) (n i : Nat) : Prop :=
  ∀ k, i ≤ k → k < i + n → off.getD (k * 2 + 1) 0 + 1 ≤ off.getD (k * 2 + 2) 0

/-- The value of the first interface field among `n` fields from field `i` on, if there is one,
does not end before it begins. -/
def NameOrdered (m : Mem UInt8) (str : Int) (off : List Int) (n i : Nat) : Prop :=
  ∀ k, i ≤ k → k < i + n → (fieldBytes m str off k).key = postKeys 0 →
    (∀ j, i ≤ j → j < k → (fieldBytes m str off j).key ≠ postKeys 0) →
    off.getD (k * 2 + 1) 0 + 1 ≤ off.getD (k * 2 + 2) 0

section Table

variable {m : Mem UInt8} {str : Int} {off : List Int}

variable (m str) in
lemma ValuesOrdered.nameOrdered {n i : Nat} (h : ValuesOrdered off n i) :
    NameOrdered m str off n i :=
  fun k hk hlt _ _ => h k hk hlt

lemma nameOrdered_succ_pos {n i : Nat} (h : (fieldBytes m str off i).key = postKeys 0) :
    NameOrdered m str off (n + 1) i ↔ off.getD (i * 2 + 1) 0 + 1 ≤ off.getD (i * 2 + 2) 0 := by
  constructor
  · exact fun hord => hord i le_rfl (by omega) h (fun j hj hlt => absurd hlt (by omega))
  · intro hord k hk _ _ hfirst
    by_cases hki : k = i
    · exact hki ▸ hord
    · exact absurd h (hfirst i le_rfl (by omega))

lemma nameOrdered_succ_neg {n i : Nat} (h : (fieldBytes m str off i).key ≠ postKeys 0) :
    NameOrdered m str off (n + 1) i ↔ NameOrdered m str off n (i + 1) := by
  constructor
  · intro hord k hk hlt hkey hfirst
    apply hord k (by omega) (by omega) hkey
    intro j hj hjk
    by_cases hji : j = i
    · exact hji ▸ h
    · exact hfirst j (by omega) hjk
  · intro hord k hk hlt hkey hfirst
    have hki : k ≠ i := by
      rintro rfl
      exact h hkey
    exact hord k (by omega) (by omega) hkey fun j hj hjk => hfirst j (by omega) hjk

lemma fieldTable_succ (n i : Nat) :
    fieldTable m str off (n + 1) i = fieldBytes m str off i :: fieldTable m str off n (i + 1) := by
  rw [fieldTable, List.range'_succ, List.map_cons, fieldTable]

lemma sentField_cons_pos {f : FieldBytes} {table : List FieldBytes} {j : Fin 4}
    (h : (f.key == postKeys j) = true) : sentField (f :: table) j = some f := by
  simp only [sentField, List.find?_cons, h]

lemma sentField_cons_neg {f : FieldBytes} {table : List FieldBytes} {j : Fin 4}
    (h : ¬ (f.key == postKeys j) = true) : sentField (f :: table) j = sentField table j := by
  simp only [sentField, List.find?_cons, Bool.not_eq_true _ ▸ h]

lemma length_postKeys (j : Fin 4) : ((postKeys j).length : Int) = postKeysSize j := by
  revert j
  decide

lemma postKeys_ne_nil (j : Fin 4) : postKeys j ≠ [] := by
  revert j
  decide

lemma sizedKey_iff (i : Nat) (j : Fin 4) :
    (off.getD (i * 2 + 1) 0 - (off.getD (i * 2) 0 + 1) = postKeysSize j ∧
      keyMatches m (str + (off.getD (i * 2) 0 + 1)) (postKeys j) = true) ↔
      ((fieldBytes m str off i).key == postKeys j) = true := by
  have hsize := length_postKeys j
  have hne := List.length_pos_iff.mpr (postKeys_ne_nil j)
  simp only [keyMatches, fieldBytes, beq_iff_eq]
  constructor
  · rintro ⟨hlen, hread⟩
    have hcount : (off.getD (i * 2 + 1) 0 - (off.getD (i * 2) 0 + 1)).toNat =
        (postKeys j).length := by omega
    rw [hcount, hread]
  · intro hread
    have hcount := congrArg List.length hread
    rw [Mem.length_read] at hcount
    rw [hcount] at hread
    exact ⟨by omega, hread⟩

lemma key_test_iff (i : Nat) (j : Fin 4) :
    ((postKeys j).head? = some (m (str + (off.getD (i * 2) 0 + 1))) ∧
      off.getD (i * 2 + 1) 0 - (off.getD (i * 2) 0 + 1) = postKeysSize j ∧
      keyMatches m (str + (off.getD (i * 2) 0 + 1)) (postKeys j) = true) ↔
      ((fieldBytes m str off i).key == postKeys j) = true := by
  rw [← sizedKey_iff i j]
  refine ⟨fun h => h.2, fun h => ⟨?_, h⟩⟩
  have hread : m.read (str + (off.getD (i * 2) 0 + 1)) (postKeys j).length = postKeys j := by
    simpa [keyMatches] using h.2
  obtain ⟨c, w, hw⟩ := List.exists_cons_of_ne_nil (postKeys_ne_nil j)
  rw [hw, List.length_cons, Mem.read_succ] at hread
  rw [hw, List.head?_cons, (List.cons.inj hread).1]

lemma decodeLoop_field (b : Build) (i : Nat) (offset : Int) (res : Mem UInt8) :
    decodeLoop b m str (off.getD (i * 2 + 2) 0)
        ((off.getD (i * 2 + 2) 0 - (off.getD (i * 2 + 1) 0 + 1)).toNat + 1)
        (off.getD (i * 2 + 1) 0 + 1) offset res =
      some (offset + (rawDecode (fieldBytes m str off i).next (fieldBytes m str off i).afterNext
          (fieldBytes m str off i).value).length,
        res.write offset (rawDecode (fieldBytes m str off i).next
          (fieldBytes m str off i).afterNext (fieldBytes m str off i).value)) := by
  simp only [fieldBytes]
  by_cases hle : off.getD (i * 2 + 1) 0 + 1 ≤ off.getD (i * 2 + 2) 0
  · obtain ⟨n, hn⟩ : ∃ n : Nat, off.getD (i * 2 + 2) 0 = off.getD (i * 2 + 1) 0 + 1 + (n : Int) :=
      ⟨(off.getD (i * 2 + 2) 0 - (off.getD (i * 2 + 1) 0 + 1)).toNat, by omega⟩
    have hcount : (off.getD (i * 2 + 1) 0 + 1 + (n : Int) -
        (off.getD (i * 2 + 1) 0 + 1)).toNat = n := by omega
    have hloop := decodeLoop_eq b (m.read (str + (off.getD (i * 2 + 1) 0 + 1)) n)
      (off.getD (i * 2 + 1) 0 + 1) (by rw [Mem.length_read]) (n + 1)
      (by rw [Mem.length_read]; omega) offset res
    rw [Mem.length_read] at hloop
    rw [hn, hcount, hloop]
  · have hcount : (off.getD (i * 2 + 2) 0 - (off.getD (i * 2 + 1) 0 + 1)).toNat = 0 := by omega
    rw [hcount, decodeLoop_done b (by omega) (by omega), Mem.read_zero, rawDecode_nil]
    simp

theorem serializeStrLoop_eq (b : Build) (j : Fin 4) (n i : Nat) (offset : Int)
    (res : Mem UInt8) :
    serializeStrLoop b m str off j n i offset res =
      some (offset + (quotedLine (fieldTable m str off n i) j).length,
        res.write offset (quotedLine (fieldTable m str off n i) j)) := by
  induction n generalizing i with
  | zero => simp [serializeStrLoop, fieldTable, quotedLine, sentField]
  | succ n ih =>
    rw [serializeStrLoop, fieldTable_succ]
    simp only [key_test_iff i j]
    by_cases hkey : ((fieldBytes m str off i).key == postKeys j) = true
    · rw [if_pos hkey, decodeLoop_field b i, quotedLine, sentField_cons_pos hkey]
      dsimp only
      generalize rawDecode _ _ _ = d
      have hstore : ((res.write offset [34]).write (offset + 1) d).write
          (offset + 1 + d.length) [34, 10] = res.write offset (34 :: (d ++ [34, 10])) := by
        rw [Mem.write_write_append _ _ _ _ _ (by simp),
          Mem.write_write_append _ _ _ _ _ (by simp)]
        simp
      simp only [Option.bind_eq_bind, Option.bind_some, hstore, List.length_cons,
        List.length_append, List.length_nil]
      push_cast
      congr 2
      omega
    · rw [if_neg hkey, ih, quotedLine, quotedLine, sentField_cons_neg hkey]

theorem serializePathDictLoop_eq (n i : Nat) (hord : NameOrdered m str off n i) (offset : Int)
    (res : Mem UInt8) :
    serializePathDictLoop m str off n i offset res =
      some (offset + (dictLine (fieldTable m str off n i)).length,
        res.write offset (dictLine (fieldTable m str off n i))) := by
  induction n generalizing i with
  | zero => simp [serializePathDictLoop, fieldTable, dictLine, sentField]
  | succ n ih =>
    rw [serializePathDictLoop, fieldTable_succ]
    simp only [sizedKey_iff i 0]
    by_cases hkey : ((fieldBytes m str off i).key == postKeys 0) = true
    · have hle := (nameOrdered_succ_pos (beq_iff_eq.mp hkey)).mp hord
      have hread : m.read (str + off.getD (i * 2 + 1) 0 + 1)
          (off.getD (i * 2 + 2) 0 - off.getD (i * 2 + 1) 0 - 1).toNat =
          (fieldBytes m str off i).value := by
        rw [fieldBytes, add_assoc, sub_sub]
      have hlen : off.getD (i * 2 + 2) 0 - off.getD (i * 2 + 1) 0 - 1 =
          (fieldBytes m str off i).value.length := by
        rw [← hread, Mem.length_read]
        omega
      have hprefix : (pathPrefix.length : Int) = 9 := rfl
      have hsuffix : (pathSuffix.length : Int) = 3 := rfl
      rw [if_pos hkey, hread, hlen, dictLine, sentField_cons_pos hkey,
        if_neg (by omega : ¬ ((fieldBytes m str off i).value.length : Int) < 0)]
      dsimp only
      rw [← hprefix, Mem.write_write_append _ _ _ _ _ rfl, Mem.write_write_append _ _ _ _ _ rfl]
      congr 2
      simp only [List.length_append, Nat.cast_add]
      omega
    · rw [if_neg hkey, ih (i + 1) ((nameOrdered_succ_neg (by simpa using hkey)).mp hord), dictLine,
        dictLine, sentField_cons_neg hkey]

/-- A size that is negative is a huge `size_t`. -/
lemma serializePathDictLoop_eq_none (n i : Nat) (hord : ¬ NameOrdered m str off n i) (offset : Int)
    (res : Mem UInt8) : serializePathDictLoop m str off n i offset res = none := by
  induction n generalizing i with
  | zero => exact absurd (fun k hk hlt => absurd hlt (by omega)) hord
  | succ n ih =>
    rw [serializePathDictLoop]
    simp only [sizedKey_iff i 0]
    by_cases hkey : ((fieldBytes m str off i).key == postKeys 0) = true
    · rw [nameOrdered_succ_pos (beq_iff_eq.mp hkey)] at hord
      rw [if_pos hkey, if_pos (by omega)]
    · rw [nameOrdered_succ_neg (by simpa using hkey)] at hord
      rw [if_neg hkey, ih (i + 1) hord]

variable (m str) in
/-- What `generate_body` writes, and where it ends. -/
theorem generateBody_eq_serializedBody (b : Build) (n : Nat)
    (hord : NameOrdered m str off (n / 2) 0) (res : Mem UInt8) :
    generateBody b res m str off n =
      some (16 + ((serializedBody (fieldTable m str off (n / 2) 0)).length : Int),
        res.write 16 (serializedBody (fieldTable m str off (n / 2) 0))) := by
  simp only [generateBody, serializeStr, serializePathDict, serializeStrLoop_eq,
    serializePathDictLoop_eq _ _ hord, Option.bind_eq_bind, Option.bind_some, serializedBody]
  generalize fieldTable m str off (n / 2) 0 = table
  have hversion : dubboVersion.length = 8 := rfl
  have hnull : nullLine.length = 5 := rfl
  congr 2
  · simp only [List.length_append, hversion, hnull]
    push_cast
    omega
  · -- the blocks are adjacent, so they are merged from the last one on
    have hnullEnd : ∀ a : Int, a + 5 = a + (nullLine.length : Int) := fun _ => rfl
    have hversionEnd : (16 : Int) + 8 = 16 + (dubboVersion.length : Int) := rfl
    rw [Mem.write_write_append _ _ _ _ _ rfl, Mem.write_write_append _ _ _ _ _ rfl,
      Mem.write_write_append _ _ _ _ _ rfl, Mem.write_write_append _ _ _ _ _ (hnullEnd _),
      Mem.write_write_append _ _ _ _ _ rfl, Mem.write_write_append _ _ _ _ _ hversionEnd]

theorem generateBody_eq_some_iff (b : Build) (n : Nat) (res : Mem UInt8) (size : Int)
    (res' : Mem UInt8) :
    generateBody b res m str off n = some (size, res') ↔
      NameOrdered m str off (n / 2) 0 ∧
        size = 16 + ((serializedBody (fieldTable m str off (n / 2) 0)).length : Int) ∧
        res' = res.write 16 (serializedBody (fieldTable m str off (n / 2) 0)) := by
  by_cases hord : NameOrdered m str off (n / 2) 0
  · simp only [generateBody_eq_serializedBody m str b n hord, Option.some.injEq, Prod.mk.injEq,
      hord, true_and, eq_comm]
  · have hnone : generateBody b res m str off n = none := by
      simp only [generateBody, serializeStr, serializePathDict, serializeStrLoop_eq,
        serializePathDictLoop_eq_none _ _ hord, Option.bind_eq_bind, Option.bind_some]
    simp [hnone, hord]

end Table

/-! ### The package -/

/-- Magic and flags, the request id little-endian, the size of the rest big-endian. -/
def dubboHeader (reqId : Int) (size : Nat) : List UInt8 :=
  [0xda, 0xbb, 0xc6, 0x00] ++ (leBytes 8 reqId ++ (leBytes 4 size).reverse)

/-- The package of the fields of a table. -/
def serializedPackage (table : List FieldBytes) (reqId : Int) : List UInt8 :=
  dubboHeader reqId (serializedBody table).length ++ serializedBody table

@[simp] lemma length_dubboHeader (reqId : Int) (size : Nat) :
    (dubboHeader reqId size).length = 16 := by
  simp [dubboHeader]

theorem generateHeader_eq (res : Mem UInt8) (body : List UInt8) (reqId : Int) :
    generateHeader (res.write 16 body) body.length reqId =
      res.write 0 (dubboHeader reqId body.length ++ body) := by
  have hsize : [UInt8.ofInt ((body.length : Int) >>> (24 : Nat)),
      UInt8.ofInt ((body.length : Int) >>> (16 : Nat)),
      UInt8.ofInt ((body.length : Int) >>> (8 : Nat)), UInt8.ofInt (body.length : Int)] =
      (leBytes 4 body.length).reverse := intToFourChar_eq body.length
  have hmagic : headerBytes = [0xda, 0xbb, 0xc6, 0x00] ++ List.replicate 8 0 := rfl
  rw [generateHeader]
  simp only [hsize, hmagic, longTo8bytes]
  rw [← Mem.write_write_append _ 0 4 _ _ rfl, Mem.write_write_replace _ 4 _ _ (by simp),
    Mem.write_write_append _ 0 4 _ _ rfl, Mem.write_write_append _ 0 12 _ _ (by simp),
    List.append_assoc, Mem.write_write_front _ 0 16 _ _ (by simp), dubboHeader]

section Package

variable {m : Mem UInt8} {str : Int} {body : List UInt8} {off : List Int}

/-- Where field `i` of `n` fields lies in a body of `len` bytes. The two bytes behind a field
that is not the last one belong to the body. -/
structure FieldSpan (len : Int) (off : List Int) (n i : Nat) : Prop where
  keyBeg : -1 ≤ off.getD (i * 2) 0
  key : off.getD (i * 2) 0 < off.getD (i * 2 + 1) 0
  value : off.getD (i * 2 + 1) 0 < off.getD (i * 2 + 2) 0
  valueEnd : off.getD (i * 2 + 2) 0 ≤ len
  next : i + 1 < n → off.getD (i * 2 + 2) 0 + 1 < len
  last : i + 1 = n → off.getD (i * 2 + 2) 0 = len

lemma SplitOffsets.length_even {i : Nat} (h : SplitOffsets body i off) :
    off.length = 2 * (off.length / 2) ∧ 0 < off.length / 2 := by
  induction h with
  | last => simp
  | more _ _ _ _ ih =>
    simp only [List.length_cons]
    omega

lemma lt_of_amp {i e : Nat} (he : FirstAt body 61 i e) (hi : body[i]? = some 38) : i < e := by
  have hle := he.le
  have hne : i ≠ e := by
    rintro rfl
    have h := he.hit.symm.trans hi
    simp at h
  omega

lemma SplitOffsets.succ_lt_length {i : Nat} (h : SplitOffsets body i off)
    (hi : body[i]? = some 38) : i + 1 < body.length := by
  cases h with
  | last he _ =>
    have := lt_of_amp he hi
    have := he.lt_length
    omega
  | more he _ _ _ =>
    have := lt_of_amp he hi
    have := he.lt_length
    omega

lemma fieldSpan_zero {len p e s : Int} {rest : List Int} {n : Nat} (hp : -1 ≤ p) (hkey : p < e)
    (hvalue : e < s) (hend : s ≤ len) (hnext : 1 < n → s + 1 < len) (hlast : 1 = n → s = len) :
    FieldSpan len (p :: e :: s :: rest) n 0 :=
  ⟨hp, hkey, hvalue, hend, fun h => hnext (by omega), fun h => hlast (by omega)⟩

lemma FieldSpan.shift {len p e s : Int} {rest : List Int} {n k : Nat}
    (h : FieldSpan len (s :: rest) n k) : FieldSpan len (p :: e :: s :: rest) (n + 1) (k + 1) := by
  have hshift : ∀ d, (p :: e :: s :: rest).getD ((k + 1) * 2 + d) 0 =
      (s :: rest).getD (k * 2 + d) 0 := by
    intro d
    have hidx : (k + 1) * 2 + d = (k * 2 + d) + 1 + 1 := by omega
    rw [hidx, List.getD_cons_succ, List.getD_cons_succ]
  have hbeg := hshift 0
  simp only [Nat.add_zero] at hbeg
  exact ⟨hbeg ▸ h.keyBeg, hbeg ▸ hshift 1 ▸ h.key, hshift 1 ▸ hshift 2 ▸ h.value,
    hshift 2 ▸ h.valueEnd, fun hnext => hshift 2 ▸ h.next (by omega),
    fun hlast => hshift 2 ▸ h.last (by omega)⟩

lemma SplitOffsets.fieldSpan {i : Nat} (h : SplitOffsets body i off) {p : Int} (hp : -1 ≤ p)
    (hpi : p ≤ i) (hstop : p = i → body[i]? = some 38) (k : Nat) (hk : k < off.length / 2) :
    FieldSpan body.length (p :: off) (off.length / 2) k := by
  have hkey : ∀ {e : Nat}, FirstAt body 61 i e → p < e := by
    intro e he
    have hle := he.le
    by_cases hpe : p = i
    · have := lt_of_amp he (hstop hpe)
      omega
    · omega
  induction h generalizing p k with
  | @last i e he hs =>
    obtain rfl : k = 0 := by simpa using hk
    have hvalue := value_lt he.hit hs
    exact fieldSpan_zero hp (hkey he) (by omega) le_rfl (fun h => absurd h (by simp))
      (fun _ => rfl)
  | @more i e s rest he hs hlt hrest ih =>
    have hcount : ((e : Int) :: (s : Int) :: rest).length / 2 = rest.length / 2 + 1 := by
      simp only [List.length_cons]
      omega
    rw [hcount] at hk ⊢
    have hamp := hs.hit hlt
    cases k with
    | zero =>
      have hvalue := value_lt he.hit hs
      have hnext := hrest.succ_lt_length hamp
      have hfields := hrest.length_even.2
      exact fieldSpan_zero hp (hkey he) (by omega) (by omega) (fun _ => by omega)
        (fun h => absurd h (by omega))
    | succ k =>
      exact (ih (by omega) le_rfl (fun _ => hamp) k (by omega) fun he' => by
        have := lt_of_amp he' hamp
        omega).shift

/-- What `generate_res_in_place` does on a body that is split into at most 15 fields. -/
theorem generateResInPlace_eq_serializedPackage (b : Build)
    (hm : m.read str body.length = body) (hshort : body.length + 16 < 32767)
    (hoff : SplitOffsets body 0 off) (hcount : off.length / 2 ≤ 15) (res : Mem UInt8)
    (reqId : Int) :
    generateResInPlace b res m str body.length reqId =
      some (afterSplit b m str body.length,
        res.write 0 (serializedPackage (fieldTable (afterSplit b m str body.length) str
          (-1 :: off) (off.length / 2) 0) reqId),
        ((serializedPackage (fieldTable (afterSplit b m str body.length) str (-1 :: off)
          (off.length / 2) 0) reqId).length : Int)) := by
  obtain ⟨heven, -⟩ := hoff.length_even
  have hlen : (-1 :: off).length / 2 = off.length / 2 := by
    rw [List.length_cons]
    omega
  have hroom : ¬ offCapacity < (-1 :: off).length := by
    rw [List.length_cons, offCapacity]
    omega
  have hord : ValuesOrdered (-1 :: off) (off.length / 2) 0 := by
    intro k _ hk
    have := (hoff.fieldSpan (p := -1) le_rfl (by omega) (by omega) k (by omega)).value
    omega
  have hgen := generateBody_eq_serializedBody (afterSplit b m str body.length) str b
    (-1 :: off).length (hlen.symm ▸ hord.nameOrdered _ str) res
  rw [hlen] at hgen
  rw [generateResInPlace, simdSplitEfficient_eq b hm hshort hoff]
  simp only [Option.bind_eq_bind, Option.bind_some, if_neg hroom, hgen, add_sub_cancel_left,
    generateHeader_eq, serializedPackage, List.length_append, length_dubboHeader]
  push_cast
  rfl

end Package

end MeshAgent.Proofs
