import MeshAgent.Proofs.MeshLinks

/-!
# The steps of one connection

Where each request of a connection is: on the way to the relay, on the way to Dubbo, at Dubbo,
or on the way back.
-/

namespace MeshAgent.Proofs
open MeshAgent.Foundations MeshAgent.Model

/-- What the relay, if there is one, has buffered of the requests. -/
def buffered1 (link : Link) : List UInt8 := link.relay.elim [] content1

/-- What the relay, if there is one, has buffered of the responses. -/
def buffered2 (link : Link) : List UInt8 := link.relay.elim [] content2

/-- The ids on the way to the relay, on the way to Dubbo, at Dubbo, and on the way back. -/
structure Places where
  up : List Nat
  mid : List Nat
  held : List Nat
  down : List Nat

namespace Places

/-- The ids of which Dubbo has not answered the package. -/
def toAnswer (p : Places) : List Nat := p.up ++ (p.mid ++ p.held)

def all (p : Places) : List Nat := p.toAnswer ++ p.down

/-- Nothing is anywhere. -/
def none : Places := ⟨[], [], [], []⟩

end Places

/-- The bytes of a link belong to the ids at these places. -/
structure LinkHolds (env : Environment) (o : Outside) (link : Link) (p : Places) : Prop where
  requests : CarriesItems requestCode (IsRequest env o) (buffered1 link ++ link.requests) p.up
  packages : CarriesItems packageCode (IsPackage env o) link.packages p.mid
  received : List.Forall₂ (IsPackage env o) link.received p.held
  results : CarriesItems responseCode (IsResponse env o) (buffered2 link ++ link.results) p.down
  relay : ∀ relay, link.relay = some relay → RelayHolds relay

section

variable {env : Environment} {o o' : Outside} {link link' : Link} {p : Places}

lemma linkHolds_empty : LinkHolds env o .empty .none where
  requests := .nil
  packages := .nil
  received := .nil
  results := .nil
  relay := fun _ h => absurd h (by simp [Link.empty])

namespace LinkHolds

lemma keep (h : LinkHolds env o link p) (hkeep : ∀ id ∈ p.all, Keeps o o' id) :
    LinkHolds env o' link p where
  requests := h.requests.imp fun _ id hid hf =>
    hf.keep (hkeep id (by simp [Places.all, Places.toAnswer, hid]))
  packages := h.packages.imp fun _ id hid hf =>
    hf.keep (hkeep id (by simp [Places.all, Places.toAnswer, hid]))
  received := by
    have hheld : ∀ id ∈ p.held, Keeps o o' id := fun id hid =>
      hkeep id (by simp [Places.all, Places.toAnswer, hid])
    have hreceived := h.received
    generalize link.received = fs at hreceived
    generalize p.held = held at hheld hreceived
    induction hreceived with
    | nil => exact .nil
    | cons hf _ ih =>
      exact .cons (hf.keep (hheld _ (by simp)))
        (ih fun id hid => hheld id (List.mem_cons_of_mem _ hid))
  results := h.results.imp fun _ id hid hf =>
    hf.keep (hkeep id (by simp [Places.all, hid]))
  relay := h.relay

lemma write (h : LinkHolds env o link p) {id : Nat} {fs : List FormField} {f : List UInt8}
    (hasks : Asks env o id fs) (hf : IsRequestFrame id (formBody fs) f) :
    LinkHolds env o { link with requests := link.requests ++ f } { p with up := p.up ++ [id] } where
  requests := by
    have hadded := h.requests.append (.single (hasks.isFrame_request hf) ⟨fs, hasks, hf⟩)
    rwa [List.append_assoc] at hadded
  packages := h.packages
  received := h.received
  results := h.results
  relay := h.relay

lemma relayStarts (h : LinkHolds env o link p) {raw1 raw2 : Mem UInt8}
    (hstep : link.relayStarts raw1 raw2 = some link') : LinkHolds env o link' p := by
  rw [Link.relayStarts] at hstep
  split at hstep
  · simp at hstep
  · next hrelay =>
    simp only [Option.some.injEq] at hstep
    have hrequests := h.requests
    have hresults := h.results
    simp only [buffered1, buffered2, hrelay] at hrequests hresults
    subst hstep
    refine ⟨hrequests, h.packages, h.received, hresults, ?_⟩
    intro relay hnew
    rw [← Option.some.inj hnew]
    exact relayHolds_init raw1 raw2

lemma carries_packages {es : List RelayEvent} {done : List Nat}
    (h : List.Forall₂ (fun e id => ∃ f, requestCode.IsFrame f ∧ IsRequest env o f id ∧
      Transcodes e f) es done) :
    CarriesItems packageCode (IsPackage env o) (es.filterMap RelayEvent.written?).flatten done := by
  induction h with
  | nil => exact .nil
  | @cons e id es done he _ ih =>
    obtain ⟨f, -, ⟨fs, hasks, hf⟩, htrans⟩ := he
    have hwritten := htrans fs hasks.form hf.body
    rw [hf.frameId] at hwritten
    rw [List.filterMap_cons_some hwritten, List.flatten_cons]
    exact (CarriesItems.single hasks.isFrame_package ⟨fs, hasks, rfl⟩).append ih

lemma relayReads1 (h : LinkHolds env o link p) {b : Build} (hb : b ≠ .bmi) {chunk : List UInt8}
    {fresh : Mem UInt8} (hstep : link.relayReads1 b chunk fresh = some link') :
    ∃ done left, p.up = done ++ left ∧
      LinkHolds env o link' { p with up := left, mid := p.mid ++ done } := by
  rw [Link.relayReads1] at hstep
  split at hstep
  · simp at hstep
  next relay hrelay =>
  rw [Option.ite_none_left_eq_some] at hstep
  obtain ⟨hguard, hstep⟩ := hstep
  simp only [not_or, not_not, Nat.not_lt] at hguard
  obtain ⟨hne, hfit, ⟨rest, hrest⟩⟩ := hguard
  have hholds := h.relay relay hrelay
  have hrequests := h.requests
  have hresults := h.results
  simp only [buffered1, buffered2, hrelay, Option.elim_some, ← hrest] at hrequests hresults
  obtain ⟨es, relay', done, left, hsplit, hread, hfits, hnone, hleft, hdone⟩ :=
    hrequests.read (read1_reassembles_of (pReadConnectionDataHttpReqPass_transcodes hb fresh))
      hholds.fits1 hne hfit
  rw [hread] at hstep
  simp only [Option.some.injEq] at hstep
  obtain ⟨hraw, hsize⟩ := read1_sameResults hne hread
  have hcontent2 : content2 relay' = content2 relay := by rw [content2, content2, hraw, hsize]
  refine ⟨done, left, hsplit, ?_⟩
  subst hstep
  refine ⟨?_, h.packages.append (carries_packages hdone), h.received, ?_, ?_⟩
  · simp only [buffered1, Option.elim_some, ← hrest, List.drop_left]
    exact hleft
  · simp only [buffered2, Option.elim_some, hcontent2]
    exact hresults
  · intro relay'' hnew
    rw [← Option.some.inj hnew]
    exact ⟨hfits, ⟨hfits.1, hsize ▸ hholds.fits2.2⟩, hnone, hcontent2 ▸ hholds.incomplete2⟩

lemma dubboReads (h : LinkHolds env o link p) (hstep : link.dubboReads = some link') :
    ∃ id left, p.mid = id :: left ∧
      LinkHolds env o link' { p with mid := left, held := p.held ++ [id] } := by
  rw [Link.dubboReads] at hstep
  split at hstep
  · simp at hstep
  next n hnext =>
  simp only [Option.some.injEq] at hstep
  have hpackages := h.packages
  rw [← List.append_nil link.packages] at hpackages
  obtain ⟨f, rest, id, left, hmid, hbytes, hframe, hpackage, hleft⟩ :=
    hpackages.first (by rw [hnext]; simp)
  rw [hbytes, packageCode.next_append f rest hframe, Option.some.injEq] at hnext
  subst hnext
  refine ⟨id, left, hmid, ?_⟩
  subst hstep
  refine ⟨h.requests, ?_, ?_, h.results, h.relay⟩
  · simp only [hbytes, List.drop_left]
    rwa [List.append_nil] at hleft
  · simp only [hbytes, List.take_left]
    exact List.rel_append h.received (.cons hpackage .nil)

lemma dubboAnswers (h : LinkHolds env o link p) {i : Nat} {result package : List UInt8}
    (hshort : result.length ≤ 99) (hstep : link.dubboAnswers i result = some (link', package))
    (hkeep : ∀ id ∈ p.all, Keeps o o' id) (hexecuted : (package, result) ∈ o'.executed) :
    ∃ id, p.held[i]? = some id ∧ IsPackage env o' package id ∧
      LinkHolds env o' link' { p with held := p.held.eraseIdx i, down := p.down ++ [id] } := by
  rw [Link.dubboAnswers] at hstep
  split at hstep
  · simp at hstep
  next received hreceived =>
  simp only [Option.some.injEq, Prod.mk.injEq] at hstep
  obtain ⟨hlink, rfl⟩ := hstep
  obtain ⟨hi, hat⟩ := List.getElem?_eq_some_iff.mp hreceived
  have hi' : i < p.held.length := h.received.length_eq ▸ hi
  have hpackage := h.received.get hi hi'
  rw [List.get_eq_getElem, List.get_eq_getElem, hat] at hpackage
  obtain ⟨fs, hasks, hreceivedEq⟩ := hpackage
  have hmem : p.held[i] ∈ p.all := by
    simp [Places.all, Places.toAnswer]
  have hasks' := hasks.keep (hkeep _ hmem)
  have hkept := h.keep hkeep
  refine ⟨p.held[i], List.getElem?_eq_getElem hi', ⟨fs, hasks', hreceivedEq⟩, ?_⟩
  subst hlink
  refine ⟨hkept.requests, hkept.packages, ?_, ?_, hkept.relay⟩
  · simp only [List.eraseIdx_eq_take_drop_succ]
    exact List.rel_append (List.forall₂_take i hkept.received)
      (List.forall₂_drop (i + 1) hkept.received)
  · have hresponse := hkept.results.append
      (.single (isFrame_dubboResponse fs hshort)
        ⟨fs, result, ⟨hasks', hreceivedEq ▸ hexecuted, hshort⟩, rfl⟩)
    simp only [hreceivedEq]
    rwa [List.append_assoc] at hresponse

lemma replies_of_answers {es : List RelayEvent} {done : List Nat}
    (h : List.Forall₂ (fun e id => ∃ f, responseCode.IsFrame f ∧ IsResponse env o f id ∧
      AnswersResult e f) es done) :
    List.Forall₂ (IsReply env o) (es.filterMap RelayEvent.written?) done := by
  induction h with
  | nil => exact .nil
  | @cons e id es done he _ ih =>
    obtain ⟨f, -, ⟨fs, result, hanswered, rfl⟩, hanswer⟩ := he
    rw [AnswersResult, if_pos (status_dubboResponse fs result),
      answerFrame_dubboResponse] at hanswer
    have hwritten : e.written? = some (replyFrame id (httpResponse result)) := by
      rw [hanswer]
      rfl
    rw [List.filterMap_cons_some hwritten]
    exact .cons ⟨fs, result, hanswered, rfl⟩ ih

lemma relayReads2 (h : LinkHolds env o link p) {chunk : List UInt8} {fresh : Mem UInt8}
    {replies : List (List UInt8)} (hstep : link.relayReads2 chunk fresh = some (link', replies)) :
    ∃ done left, p.down = done ++ left ∧ List.Forall₂ (IsReply env o) replies done ∧
      LinkHolds env o link' { p with down := left } := by
  rw [Link.relayReads2] at hstep
  split at hstep
  · simp at hstep
  next relay hrelay =>
  rw [Option.ite_none_left_eq_some] at hstep
  obtain ⟨hguard, hstep⟩ := hstep
  simp only [not_or, not_not, Nat.not_lt] at hguard
  obtain ⟨hne, hfit, ⟨rest, hrest⟩⟩ := hguard
  have hholds := h.relay relay hrelay
  have hrequests := h.requests
  have hresults := h.results
  simp only [buffered1, buffered2, hrelay, Option.elim_some, ← hrest] at hrequests hresults
  obtain ⟨es, relay', done, left, hsplit, hread, hfits, hnone, hleft, hdone⟩ :=
    hresults.read (read2_reassembles_of (pOnReadResultsPass_answers fresh)) hholds.fits2 hne hfit
  rw [hread] at hstep
  simp only [Option.some.injEq, Prod.mk.injEq] at hstep
  obtain ⟨hlink, rfl⟩ := hstep
  obtain ⟨hraw, hsize⟩ := read2_sameRequests hne hread
  have hcontent1 : content1 relay' = content1 relay := by rw [content1, content1, hraw, hsize]
  refine ⟨done, left, hsplit, replies_of_answers hdone, ?_⟩
  subst hlink
  refine ⟨?_, h.packages, h.received, ?_, ?_⟩
  · simp only [buffered1, Option.elim_some, hcontent1]
    exact hrequests
  · simp only [buffered2, Option.elim_some, ← hrest, List.drop_left]
    exact hleft
  · intro relay'' hnew
    rw [← Option.some.inj hnew]
    exact ⟨⟨hfits.1, hsize ▸ hholds.fits1.2⟩, hfits, hcontent1 ▸ hholds.incomplete1, hnone⟩

end LinkHolds

end

end MeshAgent.Proofs
