import Mathlib.Data.List.Forall2
import Mathlib.Order.Basic
import MeshAgent.Foundations.TracedLoop

/-!
# Reassembling frames from a chunked stream

A stream of self-delimiting frames arrives in chunks that respect no frame boundary.
A reader appends each chunk to its buffer and takes off complete frames until the rest
is incomplete. What it handles does not depend on the cutting.
-/

namespace MeshAgent.Foundations

variable {β σ ε : Type*}

/-- A self-delimiting format: `next` is the length of the first frame of a buffered
content, if that frame is complete. -/
structure FrameCode (β : Type*) where
  next : List β → Option Nat
  IsFrame : List β → Prop
  next_nil : next [] = none
  next_append : ∀ f x, IsFrame f → next (f ++ x) = some f.length
  next_incomplete : ∀ p x, IsFrame (p ++ x) → x ≠ [] → next p = none

namespace FrameCode

variable (code : FrameCode β)

lemma ne_nil {f : List β} (h : code.IsFrame f) : f ≠ [] := by
  rintro rfl
  have hnext := code.next_append [] [] h
  rw [List.append_nil, code.next_nil] at hnext
  exact absurd hnext (by simp)

lemma length_lt_of_next_eq_none {q y f x : List β} (hf : code.IsFrame f)
    (h : q ++ y = f ++ x) (hq : code.next q = none) : q.length < f.length := by
  by_contra hge
  obtain ⟨t, rfl⟩ : f <+: q :=
    List.prefix_of_prefix_length_le (h ▸ List.prefix_append f x) (List.prefix_append q y) (by omega)
  rw [code.next_append f t hf] at hq
  exact absurd hq (by simp)

lemma eq_nil_of_next_eq_none {q : List β} {fs : List (List β)} (hfs : ∀ f ∈ fs, code.IsFrame f)
    (h : q = fs.flatten) (hq : code.next q = none) : fs = [] := by
  cases fs with
  | nil => rfl
  | cons f fs =>
    rw [List.flatten_cons] at h
    rw [h, code.next_append f _ (hfs f (by simp))] at hq
    exact absurd hq (by simp)

lemma length_le_flatten {fs : List (List β)} (hfs : ∀ f ∈ fs, code.IsFrame f) :
    fs.length ≤ fs.flatten.length := by
  induction fs with
  | nil => simp
  | cons f fs ih =>
    have hpos := List.length_pos_iff.mpr (code.ne_nil (hfs f (by simp)))
    have hrest := ih (fun g hg => hfs g (List.mem_cons_of_mem _ hg))
    rw [List.flatten_cons, List.length_append, List.length_cons]
    omega

/-- Every initial part of a stream of frames is some complete frames and an
incomplete rest. -/
lemma exists_split (fs : List (List β)) (hfs : ∀ f ∈ fs, code.IsFrame f) (x y : List β)
    (h : x ++ y = fs.flatten) :
    ∃ done rest q, fs = done ++ rest ∧ x = done.flatten ++ q ∧ q ++ y = rest.flatten ∧
      code.next q = none := by
  induction fs generalizing x with
  | nil =>
    have hx : x = [] := by simpa using (List.append_eq_nil_iff.mp h).1
    exact ⟨[], [], x, rfl, rfl, h, hx ▸ code.next_nil⟩
  | cons f fs ih =>
    have hf : code.IsFrame f := hfs f (by simp)
    rw [List.flatten_cons] at h
    by_cases hlen : f.length ≤ x.length
    · obtain ⟨t, rfl⟩ : f <+: x :=
        List.prefix_of_prefix_length_le (h ▸ List.prefix_append f _) (List.prefix_append x y) hlen
      rw [List.append_assoc, List.append_cancel_left_eq] at h
      obtain ⟨done, rest, q, rfl, rfl, hq, hnone⟩ :=
        ih (fun g hg => hfs g (List.mem_cons_of_mem _ hg)) t h
      exact ⟨f :: done, rest, q, rfl, by simp, hq, hnone⟩
    · obtain ⟨t, rfl⟩ : x <+: f :=
        List.prefix_of_prefix_length_le (h ▸ List.prefix_append x y) (List.prefix_append f _)
          (by omega)
      have ht : t ≠ [] := by
        rintro rfl
        simp at hlen
      exact ⟨[], (x ++ t) :: fs, x, rfl, rfl, h, code.next_incomplete x t hf ht⟩

end FrameCode

/-- The body returns on an incomplete content and otherwise handles its first frame,
which it logs and takes off the buffer. -/
structure ReadsFrames (code : FrameCode β) (content : σ → List β) (Inv : σ → Prop)
    (Logs : ε → List β → Prop) (body : σ → Pass σ ε) : Prop where
  ret : ∀ s, Inv s → code.next (content s) = none → body s = .ret
  emit : ∀ s f x, Inv s → code.IsFrame f → content s = f ++ x →
    ∃ e s', body s = .emit e (some s') ∧ Inv s' ∧ content s' = x ∧ Logs e f

theorem ReadsFrames.tracedLoop_frames {code : FrameCode β} {content : σ → List β}
    {Inv : σ → Prop} {Logs : ε → List β → Prop} {body : σ → Pass σ ε}
    (hbody : ReadsFrames code content Inv Logs body) (fs : List (List β))
    (hfs : ∀ f ∈ fs, code.IsFrame f) (q : List β) (hq : code.next q = none)
    (fuel : Nat) (hfuel : fs.length < fuel) (s : σ) (hs : Inv s)
    (hc : content s = fs.flatten ++ q) :
    ∃ es s', tracedLoop body fuel s = (es, some s') ∧ Inv s' ∧ content s' = q ∧
      List.Forall₂ Logs es fs := by
  induction fs generalizing s fuel with
  | nil =>
    obtain ⟨fuel, rfl⟩ := Nat.exists_eq_add_of_lt hfuel
    have hret := hbody.ret s hs (by rw [hc]; exact hq)
    exact ⟨[], s, tracedLoop_ret _ hret, hs, hc, .nil⟩
  | cons f fs ih =>
    rw [List.flatten_cons, List.append_assoc] at hc
    obtain ⟨e, s', hemit, hs', hc', hlog⟩ := hbody.emit s f _ hs (hfs f (by simp)) hc
    obtain ⟨fuel, rfl⟩ : ∃ k, fuel = k + 1 := ⟨fuel - 1, by omega⟩
    obtain ⟨es, t, hloop, ht, hct, hlogs⟩ :=
      ih (fun g hg => hfs g (List.mem_cons_of_mem _ hg)) fuel
        (by simpa using hfuel) s' hs' hc'
    refine ⟨e :: es, t, ?_, ht, hct, .cons hlog hlogs⟩
    rw [tracedLoop_emit _ hemit, hloop]

/-- The chunks are delivered one after the other, until a delivery does not return. -/
def receiveAll (deliver : σ → List β → List ε × Option σ) :
    σ → List (List β) → List ε × Option σ
  | s, [] => ([], some s)
  | s, c :: cs =>
    match deliver s c with
    | (es, none) => (es, none)
    | (es, some s') => (es ++ (receiveAll deliver s' cs).1, (receiveAll deliver s' cs).2)

lemma receiveAll_cons {deliver : σ → List β → List ε × Option σ} {s s' : σ} {c : List β}
    {es : List ε} (cs : List (List β)) (h : deliver s c = (es, some s')) :
    receiveAll deliver s (c :: cs) =
      (es ++ (receiveAll deliver s' cs).1, (receiveAll deliver s' cs).2) := by
  simp [receiveAll, h]

/-- Every chunk is non-empty and no longer than what is offered when it arrives. -/
def ReadsFit (offered : σ → Nat) (deliver : σ → List β → List ε × Option σ) :
    σ → List (List β) → Prop
  | _, [] => True
  | s, c :: cs => c ≠ [] ∧ c.length ≤ offered s ∧
      ∀ s', (deliver s c).2 = some s' → ReadsFit offered deliver s' cs

lemma ReadsFit.left {offered : σ → Nat} {deliver : σ → List β → List ε × Option σ}
    (cs ds : List (List β)) (s : σ) (h : ReadsFit offered deliver s (cs ++ ds)) :
    ReadsFit offered deliver s cs := by
  induction cs generalizing s with
  | nil => trivial
  | cons c cs ih => exact ⟨h.1, h.2.1, fun s' hs' => ih s' (h.2.2 s' hs')⟩

lemma receiveAll_append {deliver : σ → List β → List ε × Option σ} (cs ds : List (List β))
    (s : σ) {s' : σ} {es : List ε} (h : receiveAll deliver s cs = (es, some s')) :
    receiveAll deliver s (cs ++ ds) =
      (es ++ (receiveAll deliver s' ds).1, (receiveAll deliver s' ds).2) := by
  induction cs generalizing s es with
  | nil =>
    simp only [receiveAll, Prod.mk.injEq, Option.some.injEq] at h
    obtain ⟨rfl, rfl⟩ := h
    rfl
  | cons c cs ih =>
    rw [List.cons_append]
    cases hdel : deliver s c with
    | mk es₀ o =>
      cases o with
      | none => simp [receiveAll, hdel] at h
      | some t =>
        rw [receiveAll_cons cs hdel, Prod.mk.injEq] at h
        rw [receiveAll_cons _ hdel, ih t (Prod.ext rfl h.2), ← h.1, List.append_assoc]

lemma ReadsFit.right {offered : σ → Nat} {deliver : σ → List β → List ε × Option σ}
    (cs ds : List (List β)) (s : σ) {s' : σ} {es : List ε}
    (h : ReadsFit offered deliver s (cs ++ ds)) (hrec : receiveAll deliver s cs = (es, some s')) :
    ReadsFit offered deliver s' ds := by
  induction cs generalizing s es with
  | nil =>
    simp only [receiveAll, Prod.mk.injEq, Option.some.injEq] at hrec
    exact hrec.2 ▸ h
  | cons c cs ih =>
    cases hdel : deliver s c with
    | mk es₀ o =>
      cases o with
      | none => simp [receiveAll, hdel] at hrec
      | some t =>
        rw [receiveAll_cons cs hdel, Prod.mk.injEq] at hrec
        exact ih t (h.2.2 t (by rw [hdel])) (Prod.ext rfl hrec.2)

/-- A delivery that completes no frame only stores its chunk. -/
def Accumulates (code : FrameCode β) (content : σ → List β) (offered : σ → Nat)
    (Inv : σ → Prop) (deliver : σ → List β → List ε × Option σ) : Prop :=
  ∀ s c, Inv s → c ≠ [] → c.length ≤ offered s → code.next (content s ++ c) = none →
    ∃ s', deliver s c = ([], some s') ∧ Inv s' ∧ content s' = content s ++ c

/-- As long as a frame is incomplete, any number of reads only collects it. -/
theorem Accumulates.receiveAll_incomplete {code : FrameCode β} {content : σ → List β}
    {offered : σ → Nat} {Inv : σ → Prop} {deliver : σ → List β → List ε × Option σ}
    (h : Accumulates code content offered Inv deliver) (chunks : List (List β)) (y : List β)
    (hy : y ≠ []) (s : σ) (hs : Inv s) (hframe : code.IsFrame (content s ++ chunks.flatten ++ y))
    (hfit : ReadsFit offered deliver s chunks) :
    ∃ s', receiveAll deliver s chunks = ([], some s') ∧ Inv s' ∧
      content s' = content s ++ chunks.flatten := by
  induction chunks generalizing s with
  | nil => exact ⟨s, rfl, hs, by simp⟩
  | cons c cs ih =>
    obtain ⟨hne, hlen, hrest⟩ := hfit
    rw [List.flatten_cons, ← List.append_assoc] at hframe
    have hnone : code.next (content s ++ c) = none :=
      code.next_incomplete _ (cs.flatten ++ y) (by rw [← List.append_assoc]; exact hframe)
        (by simp [hy])
    obtain ⟨s', hdel, hs', hcont⟩ := h s c hs hne hlen hnone
    obtain ⟨t, hrec, ht, hct⟩ :=
      ih s' hs' (by rw [hcont]; exact hframe) (hrest s' (by rw [hdel]))
    refine ⟨t, ?_, ht, by rw [hct, hcont, List.flatten_cons, List.append_assoc]⟩
    rw [receiveAll_cons cs hdel, hrec]
    rfl

/-- A delivery handles the complete frames and keeps the incomplete rest; what is
offered is the room left in a buffer of `cap` cells. -/
structure Reassembles (code : FrameCode β) (content : σ → List β) (offered : σ → Nat)
    (cap : Nat) (Inv : σ → Prop) (Logs : ε → List β → Prop)
    (deliver : σ → List β → List ε × Option σ) : Prop where
  offered_add : ∀ s, Inv s → (content s).length ≤ cap → offered s + (content s).length = cap
  frames : ∀ s c fs q, Inv s → c ≠ [] → c.length ≤ offered s →
    content s ++ c = fs.flatten ++ q → (∀ f ∈ fs, code.IsFrame f) → code.next q = none →
    ∃ es s', deliver s c = (es, some s') ∧ Inv s' ∧ content s' = q ∧ List.Forall₂ Logs es fs

/-- Any cutting of a stream into admissible reads is handled frame by frame and leaves the
buffer empty, and there is always room for the next read. -/
structure ChunkIndependent (offered size : σ → Nat) (Logs : ε → List β → Prop)
    (deliver : σ → List β → List ε × Option σ) (s : σ) (fs : List (List β)) : Prop where
  handled : ∀ chunks, chunks.flatten = fs.flatten → ReadsFit offered deliver s chunks →
    ∃ es s', receiveAll deliver s chunks = (es, some s') ∧ size s' = 0 ∧ List.Forall₂ Logs es fs
  room : ∀ chunks y, chunks.flatten ++ y = fs.flatten → ReadsFit offered deliver s chunks →
    ∃ es s', receiveAll deliver s chunks = (es, some s') ∧ 0 < offered s'

/-- A reader that stores the chunk and then runs the loop. -/
theorem ReadsFrames.reassembles {code : FrameCode β} {content : σ → List β} {Inv : σ → Prop}
    {Logs : ε → List β → Prop} {body : σ → Pass σ ε} {offered : σ → Nat} {cap : Nat}
    {deliver : σ → List β → List ε × Option σ}
    (hbody : ReadsFrames code content Inv Logs body) (store : σ → List β → σ)
    (hroom : ∀ s, Inv s → (content s).length ≤ cap → offered s + (content s).length = cap)
    (hstore : ∀ s c, Inv s → c.length ≤ offered s →
      Inv (store s c) ∧ content (store s c) = content s ++ c)
    (hdeliver : ∀ s c, Inv s → c ≠ [] →
      deliver s c = tracedLoop body ((content s ++ c).length + 1) (store s c)) :
    Reassembles code content offered cap Inv Logs deliver := by
  refine ⟨hroom, ?_⟩
  intro s c fs q hs hc hlen hsplit hfs hq
  obtain ⟨hinv, hcontent⟩ := hstore s c hs hlen
  have hcount := code.length_le_flatten hfs
  have hfuel : fs.length < (content s ++ c).length + 1 := by
    rw [hsplit, List.length_append]
    omega
  rw [hdeliver s c hs hc]
  exact hbody.tracedLoop_frames fs hfs q hq _ hfuel _ hinv (hcontent.trans hsplit)

namespace Reassembles

variable {code : FrameCode β} {content : σ → List β} {offered : σ → Nat} {cap : Nat}
  {Inv : σ → Prop} {Logs : ε → List β → Prop} {deliver : σ → List β → List ε × Option σ}

/-- After any number of reads the frames that arrived completely have been handled, and
the buffer holds what has arrived of the next one. -/
theorem receiveAll_split (h : Reassembles code content offered cap Inv Logs deliver)
    (chunks fs : List (List β)) (hfs : ∀ f ∈ fs, code.IsFrame f) (y : List β) (s : σ)
    (hs : Inv s) (hnone : code.next (content s) = none)
    (hstream : content s ++ (chunks.flatten ++ y) = fs.flatten)
    (hfit : ReadsFit offered deliver s chunks) :
    ∃ done rest es s', fs = done ++ rest ∧ receiveAll deliver s chunks = (es, some s') ∧
      Inv s' ∧ content s' ++ y = rest.flatten ∧ code.next (content s') = none ∧
      List.Forall₂ Logs es done := by
  induction chunks generalizing s fs with
  | nil => exact ⟨[], fs, [], s, rfl, rfl, hs, hstream, hnone, .nil⟩
  | cons c cs ih =>
    obtain ⟨hne, hlen, hrest⟩ := hfit
    have hx : (content s ++ c) ++ (cs.flatten ++ y) = fs.flatten := by
      rw [← hstream]
      simp
    obtain ⟨done, rest, q, rfl, hdone, hq, hqnone⟩ := code.exists_split fs hfs _ _ hx
    obtain ⟨es, s', hdel, hs', hcont, hlogs⟩ := h.frames s c done q hs hne hlen hdone
      (fun f hf => hfs f (List.mem_append_left _ hf)) hqnone
    obtain ⟨done', rest', es', t, rfl, hrec, ht, hty, htnone, hlogs'⟩ :=
      ih rest (fun f hf => hfs f (List.mem_append_right _ hf)) s' hs' (hcont ▸ hqnone)
        (hcont ▸ hq) (hrest s' (by rw [hdel]))
    refine ⟨done ++ done', rest', es ++ es', t, by simp, ?_, ht, hty, htnone,
      List.rel_append hlogs hlogs'⟩
    rw [receiveAll_cons cs hdel, hrec]

/-- Chunk independence: a completely delivered stream of frames is handled frame by
frame and leaves the buffer empty. -/
theorem receiveAll_frames (h : Reassembles code content offered cap Inv Logs deliver)
    (chunks fs : List (List β)) (hfs : ∀ f ∈ fs, code.IsFrame f) (s : σ) (hs : Inv s)
    (hempty : content s = []) (hstream : chunks.flatten = fs.flatten)
    (hfit : ReadsFit offered deliver s chunks) :
    ∃ es s', receiveAll deliver s chunks = (es, some s') ∧ Inv s' ∧ content s' = [] ∧
      List.Forall₂ Logs es fs := by
  obtain ⟨done, rest, es, s', rfl, hrec, hs', hrest, hnone, hlogs⟩ :=
    h.receiveAll_split chunks fs hfs [] s hs (hempty ▸ code.next_nil)
      (by simpa [hempty] using hstream) hfit
  rw [List.append_nil] at hrest
  have hr : rest = [] := code.eq_nil_of_next_eq_none
    (fun f hf => hfs f (List.mem_append_right _ hf)) hrest hnone
  subst hr
  exact ⟨es, s', hrec, hs', by simpa using hrest, by simpa using hlogs⟩

/-- Room is left after any number of reads, if every frame fits the buffer. -/
theorem offered_pos (h : Reassembles code content offered cap Inv Logs deliver)
    (chunks fs : List (List β)) (hfs : ∀ f ∈ fs, code.IsFrame f ∧ f.length ≤ cap)
    (hcap : 0 < cap) (y : List β) (s : σ) (hs : Inv s) (hempty : content s = [])
    (hstream : chunks.flatten ++ y = fs.flatten) (hfit : ReadsFit offered deliver s chunks) :
    ∃ es s', receiveAll deliver s chunks = (es, some s') ∧ 0 < offered s' := by
  obtain ⟨done, rest, es, s', rfl, hrec, hs', hrest, hnone, -⟩ :=
    h.receiveAll_split chunks fs (fun f hf => (hfs f hf).1) y s hs (hempty ▸ code.next_nil)
      (by simpa [hempty] using hstream) hfit
  have hshort : (content s').length < cap := by
    cases rest with
    | nil =>
      have hnil : content s' = [] := (List.append_eq_nil_iff.mp hrest).1
      simpa [hnil] using hcap
    | cons f fs =>
      have hf := hfs f (by simp)
      rw [List.flatten_cons] at hrest
      have := code.length_lt_of_next_eq_none hf.1 hrest hnone
      omega
  have hroom := h.offered_add s' hs' (Nat.le_of_lt hshort)
  exact ⟨es, s', hrec, by omega⟩

theorem chunkIndependent (h : Reassembles code content offered cap Inv Logs deliver)
    {size : σ → Nat} (hsize : ∀ s, size s = (content s).length) (hcap : 0 < cap)
    {fs : List (List β)} (hfs : ∀ f ∈ fs, code.IsFrame f ∧ f.length ≤ cap) {s : σ} (hs : Inv s)
    (hempty : size s = 0) : ChunkIndependent offered size Logs deliver s fs := by
  have hnil : content s = [] := List.eq_nil_of_length_eq_zero ((hsize s).symm.trans hempty)
  constructor
  · intro chunks hstream hfit
    obtain ⟨es, s', hrec, -, hcont, hlogs⟩ :=
      h.receiveAll_frames chunks fs (fun f hf => (hfs f hf).1) s hs hnil hstream hfit
    exact ⟨es, s', hrec, by rw [hsize, hcont]; rfl, hlogs⟩
  · intro chunks y hstream hfit
    exact h.offered_pos chunks fs hfs hcap y s hs hnil hstream hfit

end Reassembles

end MeshAgent.Foundations
