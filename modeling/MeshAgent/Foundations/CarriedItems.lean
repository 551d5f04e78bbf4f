import MeshAgent.Foundations.Framing

/-!
# Streams that carry items

The bytes of a connection, whether they have been read or not, are the frames of the items
that are on their way, one frame for each item. A reader takes the items off at the front.
-/

namespace MeshAgent.Foundations

variable {β ι σ ε : Type*} {code : FrameCode β} {IsFor : List β → ι → Prop}
  {bytes x y : List β} {items : List ι}

/-- The bytes are a frame for each of the items, in order; `IsFor f i` says that `f` is for `i`. -/
def CarriesItems (code : FrameCode β) (IsFor : List β → ι → Prop) (bytes : List β)
    (items : List ι) :
    Prop :=
  ∃ fs, List.Forall₂ (fun f i => code.IsFrame f ∧ IsFor f i) fs items ∧ bytes = fs.flatten

lemma forall₂_isFrame {fs : List (List β)}
    (h : List.Forall₂ (fun f i => code.IsFrame f ∧ IsFor f i) fs items) :
    ∀ f ∈ fs, code.IsFrame f :=
  ((List.forall₂_and_left _ _).mp h).1

namespace CarriesItems

lemma nil : CarriesItems code IsFor [] [] := ⟨[], .nil, rfl⟩

lemma single {f : List β} {i : ι} (hf : code.IsFrame f) (hfor : IsFor f i) :
    CarriesItems code IsFor f [i] :=
  ⟨[f], .cons ⟨hf, hfor⟩ .nil, by simp⟩

lemma append {bytes' : List β} {items' : List ι} (h : CarriesItems code IsFor bytes items)
    (h' : CarriesItems code IsFor bytes' items') :
    CarriesItems code IsFor (bytes ++ bytes') (items ++ items') := by
  obtain ⟨fs, hfs, rfl⟩ := h
  obtain ⟨fs', hfs', rfl⟩ := h'
  exact ⟨fs ++ fs', List.rel_append hfs hfs', List.flatten_append.symm⟩

lemma imp {IsFor' : List β → ι → Prop} (h : CarriesItems code IsFor bytes items)
    (himp : ∀ f, ∀ i ∈ items, IsFor f i → IsFor' f i) : CarriesItems code IsFor' bytes items := by
  obtain ⟨fs, hfs, rfl⟩ := h
  refine ⟨fs, ?_, rfl⟩
  induction hfs with
  | nil => exact .nil
  | @cons f i fs items hfi _ ih =>
    exact .cons ⟨hfi.1, himp f i (by simp) hfi.2⟩
      (ih fun f j hj => himp f j (List.mem_cons_of_mem i hj))

lemma bytes_eq_nil (h : CarriesItems code IsFor bytes []) : bytes = [] := by
  obtain ⟨fs, hfs, rfl⟩ := h
  rw [List.forall₂_nil_right_iff.mp hfs, List.flatten_nil]

lemma items_eq_nil (h : CarriesItems code IsFor bytes items) (hnone : code.next bytes = none) :
    items = [] := by
  obtain ⟨fs, hfs, rfl⟩ := h
  have hnil := code.eq_nil_of_next_eq_none (forall₂_isFrame hfs) rfl hnone
  rw [hnil] at hfs
  exact List.forall₂_nil_left_iff.mp hfs

/-- A part without a complete frame is shorter than some frame, as long as an item is on its
way. -/
lemma incomplete_lt (h : CarriesItems code IsFor (x ++ y) items) (hitems : items ≠ [])
    (hnone : code.next x = none) : ∃ f, code.IsFrame f ∧ x.length < f.length := by
  obtain ⟨fs, hfs, hbytes⟩ := h
  cases hfs with
  | nil => exact absurd rfl hitems
  | cons hfi _ => exact ⟨_, hfi.1, code.length_lt_of_next_eq_none hfi.1 hbytes hnone⟩

/-- A first part of the bytes holds the frames of the first items, and a rest. -/
lemma split (h : CarriesItems code IsFor (x ++ y) items) :
    ∃ fs done left q, items = done ++ left ∧
      List.Forall₂ (fun f i => code.IsFrame f ∧ IsFor f i) fs done ∧ x = fs.flatten ++ q ∧
      code.next q = none ∧ CarriesItems code IsFor (q ++ y) left := by
  obtain ⟨fs, hfs, hbytes⟩ := h
  obtain ⟨done, rest, q, rfl, hx, hq, hnone⟩ :=
    code.exists_split fs (forall₂_isFrame hfs) x y hbytes
  have hdone := List.forall₂_take done.length hfs
  have hrest := List.forall₂_drop done.length hfs
  rw [List.take_left' rfl] at hdone
  rw [List.drop_left' rfl] at hrest
  exact ⟨done, _, _, q, (List.take_append_drop _ _).symm, hdone, hx, hnone, rest, hrest, hq⟩

lemma first (h : CarriesItems code IsFor (x ++ y) items) (hsome : code.next x ≠ none) :
    ∃ f x' i left, items = i :: left ∧ x = f ++ x' ∧ code.IsFrame f ∧ IsFor f i ∧
      CarriesItems code IsFor (x' ++ y) left := by
  obtain ⟨fs, done, left, q, rfl, hfs, rfl, hnone, hrest⟩ := h.split
  cases hfs with
  | nil => exact absurd hnone hsome
  | @cons f i fs done hfi hfs =>
    refine ⟨f, fs.flatten ++ q, i, done ++ left, rfl, by simp, hfi.1, hfi.2, ?_⟩
    rw [List.append_assoc]
    exact append ⟨fs, hfs, rfl⟩ hrest

variable {content : σ → List β} {offered : σ → Nat} {cap : Nat} {Inv : σ → Prop}
  {Logs : ε → List β → Prop} {deliver : σ → List β → List ε × Option σ} {s : σ} {chunk : List β}

/-- A delivery handles the items whose frames it completes, and the others stay on the way. -/
theorem read (h : Reassembles code content offered cap Inv Logs deliver) (hs : Inv s)
    (hne : chunk ≠ []) (hfit : chunk.length ≤ offered s)
    (hcarries : CarriesItems code IsFor (content s ++ (chunk ++ y)) items) :
    ∃ es s' done left, items = done ++ left ∧ deliver s chunk = (es, some s') ∧ Inv s' ∧
      code.next (content s') = none ∧ CarriesItems code IsFor (content s' ++ y) left ∧
      List.Forall₂ (fun e i => ∃ f, code.IsFrame f ∧ IsFor f i ∧ Logs e f) es done := by
  rw [← List.append_assoc] at hcarries
  obtain ⟨fs, done, left, q, rfl, hfs, hcontent, hnone, hrest⟩ := hcarries.split
  obtain ⟨es, s', hdel, hs', hq, hlogs⟩ :=
    h.frames s chunk fs q hs hne hfit hcontent (forall₂_isFrame hfs) hnone
  refine ⟨es, s', done, left, rfl, hdel, hs', by rw [hq]; exact hnone, by rw [hq]; exact hrest, ?_⟩
  clear hdel hcontent hcarries
  induction hfs generalizing es with
  | nil =>
    rw [List.forall₂_nil_right_iff.mp hlogs]
    exact .nil
  | @cons f i fs done hfi hfs ih =>
    obtain ⟨e, es, he, hes, rfl⟩ := List.forall₂_cons_right_iff.mp hlogs
    exact .cons ⟨f, hfi.1, hfi.2, he⟩ (ih es hes)

/-- As long as an item is on its way there is room for the next read, if every frame fits the
buffer. -/
theorem room (h : Reassembles code content offered cap Inv Logs deliver) (hs : Inv s)
    (hnone : code.next (content s) = none)
    (hcarries : CarriesItems code IsFor (content s ++ y) items)
    (hitems : items ≠ []) (hshort : ∀ f, code.IsFrame f → f.length ≤ cap) : 0 < offered s := by
  obtain ⟨f, hframe, hlen⟩ := hcarries.incomplete_lt hitems hnone
  have hcap := hshort f hframe
  have hroom := h.offered_add s hs (by omega)
  omega

end CarriesItems

end MeshAgent.Foundations
