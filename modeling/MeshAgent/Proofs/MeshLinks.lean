import MeshAgent.Foundations.CarriedItems
import MeshAgent.Model.Mesh
import MeshAgent.Proofs.RequestIds

/-!
# What a connection carries to Dubbo and back

Every byte between an event loop and Dubbo belongs to a request that is on its way there or to
its answer. Each step of a relay or of Dubbo moves some requests one place further.
-/

namespace MeshAgent.Proofs
open MeshAgent.Foundations MeshAgent.Model

section

variable {env : Environment} {o o' : Outside} {id : Nat} {f : List UInt8}

/-- What has been received for an id is a header block that the parser accepts, and the fields
of a form. -/
structure Asks (env : Environment) (o : Outside) (id : Nat) (fs : List FormField) : Prop where
  small : id < 2 ^ 63
  form : FormRequest fs
  received : ∃ hdr, AcceptsHeader env hdr (formBody fs).length ∧
    o.request id = hdr ++ formBody fs

/-- Dubbo has answered the package for what has been received with this result. -/
structure AnsweredBy (env : Environment) (o : Outside) (id : Nat) (fs : List FormField)
    (result : List UInt8) : Prop where
  asks : Asks env o id fs
  executed : (dubboPackage fs id, result) ∈ o.executed
  short : result.length ≤ 99

def IsRequest (env : Environment) (o : Outside) (f : List UInt8) (id : Nat) : Prop :=
  ∃ fs, Asks env o id fs ∧ IsRequestFrame id (formBody fs) f

def IsPackage (env : Environment) (o : Outside) (f : List UInt8) (id : Nat) : Prop :=
  ∃ fs, Asks env o id fs ∧ f = dubboPackage fs id

def IsResponse (env : Environment) (o : Outside) (f : List UInt8) (id : Nat) : Prop :=
  ∃ fs result, AnsweredBy env o id fs result ∧ f = dubboResponse (dubboPackage fs id) result

def IsReply (env : Environment) (o : Outside) (f : List UInt8) (id : Nat) : Prop :=
  ∃ fs result, AnsweredBy env o id fs result ∧ f = replyFrame id (httpResponse result)

/-- What is known about an id stays known. -/
structure Keeps (o o' : Outside) (id : Nat) : Prop where
  request : o'.request id = o.request id
  executed : o.executed ⊆ o'.executed

lemma Asks.keep {fs : List FormField} (h : Asks env o id fs) (hkeep : Keeps o o' id) :
    Asks env o' id fs :=
  ⟨h.small, h.form, by rw [hkeep.request]; exact h.received⟩

lemma AnsweredBy.keep {fs : List FormField} {result : List UInt8}
    (h : AnsweredBy env o id fs result) (hkeep : Keeps o o' id) :
    AnsweredBy env o' id fs result :=
  ⟨h.asks.keep hkeep, hkeep.executed h.executed, h.short⟩

lemma IsRequest.keep (h : IsRequest env o f id) (hkeep : Keeps o o' id) :
    IsRequest env o' f id := by
  obtain ⟨fs, hasks, hf⟩ := h
  exact ⟨fs, hasks.keep hkeep, hf⟩

lemma IsPackage.keep (h : IsPackage env o f id) (hkeep : Keeps o o' id) :
    IsPackage env o' f id := by
  obtain ⟨fs, hasks, hf⟩ := h
  exact ⟨fs, hasks.keep hkeep, hf⟩

lemma IsResponse.keep (h : IsResponse env o f id) (hkeep : Keeps o o' id) :
    IsResponse env o' f id := by
  obtain ⟨fs, result, hanswered, hf⟩ := h
  exact ⟨fs, result, hanswered.keep hkeep, hf⟩

lemma IsReply.keep (h : IsReply env o f id) (hkeep : Keeps o o' id) : IsReply env o' f id := by
  obtain ⟨fs, result, hanswered, hf⟩ := h
  exact ⟨fs, result, hanswered.keep hkeep, hf⟩

lemma Asks.isFrame_request {fs : List FormField} (h : Asks env o id fs)
    (hf : IsRequestFrame id (formBody fs) f) : requestCode.IsFrame f := by
  have hlen := hf.prefixed.le_length
  have hbody := congrArg List.length hf.body
  rw [List.length_drop] at hbody
  have hsmall := h.form.length_le
  exact ⟨hf.prefixed, by omega, ⟨fs, h.form.ne_nil, h.form.count, hf.body, h.form.fits⟩⟩

lemma Asks.isFrame_package {fs : List FormField} (h : Asks env o id fs) :
    packageCode.IsFrame (dubboPackage fs id) :=
  ⟨lengthPrefixed_dubboPackage fs id h.form.fits, trivial⟩

lemma idBytes_dubboPackage (fs : List FormField) (id : Nat) :
    ((dubboPackage fs id).drop 4).take 8 = leBytes 8 id := by
  rw [dubboPackage_shape,
    List.drop_left' (show ([0xda, 0xbb, 0xc6, 0x00] : List UInt8).length = 4 from rfl),
    List.take_left' (length_leBytes 8 id)]

lemma leValue_leBytes_natCast (hid : id < 2 ^ 63) : leValue (leBytes 8 (id : Int)) = id := by
  have h := leValue_leBytes 8 (id : Int)
  rw [Int.emod_eq_of_lt (by omega) (by norm_num; omega)] at h
  exact_mod_cast h

lemma carriedId_dubboPackage (fs : List FormField) (hid : id < 2 ^ 63) :
    carriedId (dubboPackage fs id) = id := by
  rw [carriedId, idBytes_dubboPackage, leValue_leBytes_natCast hid]

lemma carriedId_replyFrame (payload : List UInt8) (hid : id < 2 ^ 63) :
    carriedId (replyFrame id payload) = id := by
  rw [carriedId, replyFrame, List.append_assoc, List.drop_left' (length_intToFourChar _),
    List.take_left' (length_longTo8bytes _)]
  exact leValue_leBytes_natCast hid

section

variable (fs : List FormField) (result : List UInt8)

lemma dubboResponse_dubboPackage :
    dubboResponse (dubboPackage fs id) result = [0xda, 0xbb, 0x06, 20] ++ (leBytes 8 id ++
      (intToFourChar (result.length + 3 : Nat) ++ ([49, 10] ++ (result ++ [10])))) := by
  rw [dubboResponse, idBytes_dubboPackage]

variable (id) in
lemma length_dubboResponse :
    (dubboResponse (dubboPackage fs id) result).length = 19 + result.length := by
  rw [dubboResponse_dubboPackage]
  simp only [List.length_append, length_leBytes, length_intToFourChar, List.length_cons,
    List.length_nil]
  omega

variable {result} in
lemma isFrame_dubboResponse (hshort : result.length ≤ 99) :
    responseCode.IsFrame (dubboResponse (dubboPackage fs id) result) := by
  have hlen := length_dubboResponse id fs result
  have hfield : lengthField 12 (dubboResponse (dubboPackage fs id) result) =
      (result.length + 3 : Nat) := by
    rw [dubboResponse_dubboPackage, lengthField, ← List.append_assoc, List.drop_left' (by simp),
      List.take_left' (length_intToFourChar _), beInt, intToFourChar_eq, List.reverse_reverse]
    exact signed_leValue_leBytes (k := 31) (by norm_num) (by omega) (by omega)
  refine ⟨⟨by omega, ?_⟩, by omega, by omega⟩
  rw [hfield, hlen]
  push_cast
  omega

lemma status_dubboResponse : status (dubboResponse (dubboPackage fs id) result) = 20 := by
  have htwenty : charVal 20 = 20 := by decide
  rw [dubboResponse_dubboPackage, status]
  exact htwenty

lemma hashOf_dubboResponse : hashOf (dubboResponse (dubboPackage fs id) result) = result := by
  have hlen := length_dubboResponse id fs result
  rw [hashOf, hlen, dubboResponse_dubboPackage, ← List.append_assoc, ← List.append_assoc,
    ← List.append_assoc, List.drop_left' (by simp [length_intToFourChar]),
    List.take_left' (by omega)]

lemma answerFrame_dubboResponse :
    answerFrame (dubboResponse (dubboPackage fs id) result) =
      replyFrame id (httpResponse result) := by
  have hid : ((dubboResponse (dubboPackage fs id) result).drop 4).take 8 = longTo8bytes id := by
    rw [dubboResponse_dubboPackage, List.drop_left' (by simp), List.take_left' (by simp)]
    rfl
  rw [answerFrame, hashOf_dubboResponse, hid, replyFrame, List.append_assoc]

end

end

/-- The event writes the package for the body of the frame. -/
def Transcodes (e : RelayEvent) (f : List UInt8) : Prop :=
  ∀ fs, FormRequest fs → f.drop 12 = formBody fs →
    e.written? = some (dubboPackage fs (frameId f))

lemma pReadConnectionDataHttpReqPass_transcodes {b : Build} (hb : b ≠ .bmi) (fresh : Mem UInt8) :
    ReadsFrames requestCode content1 RelayFits1 Transcodes
      (pReadConnectionDataHttpReqPass b fresh) := by
  constructor
  · exact (pReadConnectionDataHttpReqPass_readsFrames hb fresh).ret
  · intro relay f x hrelay hf hc
    obtain ⟨hpre, hshort, ⟨fs, hne, hcount, hbody, hfits⟩⟩ := hf
    obtain ⟨package, -, htrans⟩ :=
      pTranscode_frame hb fresh hrelay hpre hshort hne hcount hbody hfits hc
    obtain ⟨next, hpass, hnext, hcontent⟩ :=
      pReadConnectionDataHttpReqPass_frame hrelay hpre hc htrans
    refine ⟨_, next, hpass, hnext, hcontent, ?_⟩
    intro fs' hform hbody'
    obtain ⟨package', hrenders, htrans'⟩ :=
      pTranscode_frame hb fresh hrelay hpre hshort hform.ne_nil hform.count hbody' hform.fits hc
    rw [htrans, Option.some.injEq, Prod.mk.injEq] at htrans'
    rw [RelayEvent.written?, htrans'.2, hrenders.eq_of_valid (knownValid_of_forall hform.valid)]

/-- A relay between two reads: both buffers have their size and hold no complete frame. -/
structure RelayHolds (relay : TcpRelay) : Prop where
  fits1 : RelayFits1 relay
  fits2 : RelayFits2 relay
  incomplete1 : requestCode.next (content1 relay) = none
  incomplete2 : responseCode.next (content2 relay) = none

lemma relayHolds_init (raw1 raw2 : Mem UInt8) :
    RelayHolds (initTcpRelay pDefaultPackageSize raw1 raw2) where
  fits1 := ⟨rfl, Nat.zero_le _⟩
  fits2 := ⟨rfl, Nat.zero_le _⟩
  incomplete1 := requestCode.next_nil
  incomplete2 := responseCode.next_nil

section

variable {relay relay' : TcpRelay}

/-- The buffer of results is the same. -/
def SameResults (relay relay' : TcpRelay) : Prop :=
  relay'.rawBuf2 = relay.rawBuf2 ∧ relay'.rawBuf2Size = relay.rawBuf2Size

/-- The buffer of requests is the same. -/
def SameRequests (relay relay' : TcpRelay) : Prop :=
  relay'.rawBuf1 = relay.rawBuf1 ∧ relay'.rawBuf1Size = relay.rawBuf1Size

lemma pReadConnectionDataHttpReqPass_sameResults {b : Build} {fresh : Mem UInt8} {e : RelayEvent}
    (h : pReadConnectionDataHttpReqPass b fresh relay = .emit e (some relay')) :
    SameResults relay relay' := by
  rw [pReadConnectionDataHttpReqPass] at h
  split at h
  · simp at h
  · split at h
    · simp at h
    · next relay₁ package htrans =>
      simp only [Pass.emit.injEq, Option.some.injEq] at h
      obtain ⟨-, rfl⟩ := h
      rw [pTranscode] at htrans
      simp only [Option.ite_none_left_eq_some, Option.bind_eq_bind,
        Option.bind_eq_some_iff] at htrans
      obtain ⟨-, ⟨raw, res, size⟩, -, -, hsome⟩ := htrans
      simp only [Option.some.injEq, Prod.mk.injEq] at hsome
      obtain ⟨rfl, -⟩ := hsome
      exact ⟨rfl, rfl⟩

lemma pOnReadResultsPass_sameRequests {fresh : Mem UInt8} {e : RelayEvent}
    (h : pOnReadResultsPass fresh relay = .emit e (some relay')) : SameRequests relay relay' := by
  rw [pOnReadResultsPass] at h
  split at h
  · simp at h
  · simp only at h
    split at h
    · split at h
      · simp at h
      · simp only [Pass.emit.injEq, Option.some.injEq] at h
        obtain ⟨-, rfl⟩ := h
        exact ⟨rfl, rfl⟩
    · simp only [Pass.emit.injEq, Option.some.injEq] at h
      obtain ⟨-, rfl⟩ := h
      exact ⟨rfl, rfl⟩

lemma read1_sameResults {b : Build} {fresh : Mem UInt8} {chunk : List UInt8}
    {es : List RelayEvent} (hne : chunk ≠ [])
    (h : relay.read1 b fresh chunk = (es, some relay')) : SameResults relay relay' := by
  have hpos : 0 < chunk.length := List.length_pos_iff.mpr hne
  rw [TcpRelay.read1, pReadConnectionDataHttpReq, if_pos (by omega)] at h
  refine (tracedLoop_reaches h).invariant (P := SameResults relay) ?_ ⟨rfl, rfl⟩
  intro s e s' hs hpass
  obtain ⟨hraw, hsize⟩ := pReadConnectionDataHttpReqPass_sameResults hpass
  exact ⟨hraw.trans hs.1, hsize.trans hs.2⟩

lemma read2_sameRequests {fresh : Mem UInt8} {chunk : List UInt8} {es : List RelayEvent}
    (hne : chunk ≠ []) (h : relay.read2 fresh chunk = (es, some relay')) :
    SameRequests relay relay' := by
  have hpos : 0 < chunk.length := List.length_pos_iff.mpr hne
  rw [TcpRelay.read2, pOnReadResults, if_pos (by omega)] at h
  refine (tracedLoop_reaches h).invariant (P := SameRequests relay) ?_ ⟨rfl, rfl⟩
  intro s e s' hs hpass
  obtain ⟨hraw, hsize⟩ := pOnReadResultsPass_sameRequests hpass
  exact ⟨hraw.trans hs.1, hsize.trans hs.2⟩

end

end MeshAgent.Proofs
