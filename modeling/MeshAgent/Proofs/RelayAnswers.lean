import MeshAgent.Proofs.Reassembly

/-!
# Which results are answered

The relay answers the results with status 20 and drops the others.
-/

namespace MeshAgent.Proofs
open MeshAgent.Foundations MeshAgent.Model

/-- `response_template` with its length filled in, and the body. -/
def httpResponse (hash : List UInt8) : List UInt8 :=
  responseTemplate.take 33 ++ (intToString hash.length ++
    (responseTemplate.drop (33 + (intToString hash.length).length) ++ hash))

/-- The body between the line of the result type and the final newline. -/
def hashOf (f : List UInt8) : List UInt8 := (f.drop 18).take (f.length - 19)

/-- The answer to the consumer agent. -/
def answerFrame (f : List UInt8) : List UInt8 :=
  intToFourChar (httpResponse (hashOf f)).length ++
    ((f.drop 4).take 8 ++ httpResponse (hashOf f))

/-- A frame from Dubbo, with a body of 3 to 102 bytes and any status. -/
structure DubboResponse (f : List UInt8) : Prop where
  prefixed : LengthPrefixed 16 12 f
  le_length : 16 + 3 ≤ f.length
  length_le : f.length ≤ 16 + 102

def status (f : List UInt8) : Int := charVal (f.getD 3 0)

/-- A reply frame with the 8 id bytes of the response. -/
structure IsReplyTo (reply f : List UInt8) : Prop where
  prefixed : LengthPrefixed 12 0 reply
  reqId : (reply.drop 4).take 8 = (f.drop 4).take 8

lemma length_intToString (x : Int) : (intToString x).length ≤ 2 := by
  unfold intToString
  split <;> simp

lemma length_responseTemplate : responseTemplate.length = 39 := rfl

lemma length_httpResponse (hash : List UInt8) : (httpResponse hash).length = 39 + hash.length := by
  have h := length_intToString hash.length
  rw [httpResponse]
  simp only [List.length_append, List.length_take, List.length_drop, length_responseTemplate]
  omega

lemma length_hashOf {f : List UInt8} (hge : 16 + 3 ≤ f.length) :
    (hashOf f).length = f.length - 19 := by
  rw [hashOf, List.length_take, List.length_drop]
  omega

lemma length_answerFrame {f : List UInt8} (hge : 16 + 3 ≤ f.length) :
    (answerFrame f).length = 12 + (39 + (f.length - 19)) := by
  rw [answerFrame]
  simp only [List.length_append, length_intToFourChar, List.length_take, List.length_drop,
    length_httpResponse, length_hashOf hge]
  omega

lemma write_httpResponse (res : Mem UInt8) (hash : List UInt8) :
    (((res.write 12 responseTemplate).write (12 + 33) (intToString hash.length)).write
      (12 + 39) hash) = res.write 12 (httpResponse hash) := by
  have h := length_intToString hash.length
  have hcut : responseTemplate = responseTemplate.take 33 ++
      ((responseTemplate.drop 33).take (intToString hash.length).length ++
        responseTemplate.drop (33 + (intToString hash.length).length)) := by
    rw [← List.drop_drop, List.take_append_drop, List.take_append_drop]
  have hinside := Mem.write_write_inside res 12 (12 + 33) (responseTemplate.take 33)
    ((responseTemplate.drop 33).take (intToString hash.length).length)
    (responseTemplate.drop (33 + (intToString hash.length).length)) (intToString hash.length)
    rfl (by rw [List.length_take, List.length_drop, length_responseTemplate]; omega)
  rw [← hcut] at hinside
  rw [hinside, Mem.write_write_append _ 12 _ _ _ (by
    simp only [List.length_append, List.length_take, List.length_drop, length_responseTemplate]
    omega), httpResponse, List.append_assoc, List.append_assoc]

lemma pAnswer_eq (fresh : Mem UInt8) {relay : TcpRelay} {f x : List UInt8}
    (hge : 16 + 3 ≤ f.length) (hle : f.length ≤ 16 + 4048) (hc : content2 relay = f ++ x) :
    pAnswer fresh relay ((f.length : Int) - (16 : Nat)) = some (answerFrame f) := by
  have hlen := length_hashOf hge
  have hcap : pDefaultPackageSize = 4096 := rfl
  have htemplate : responseTemplateLen = 39 := rfl
  have hhash : (f.length : Int) - (16 : Nat) - 3 = (hashOf f).length := by omega
  have hread : relay.rawBuf2.read 18 (hashOf f).length = hashOf f := by
    rw [hlen]
    exact read_within (a := 18) hc (by omega)
  have hid : relay.rawBuf2.read 4 8 = (f.drop 4).take 8 := read_within (a := 4) hc (by omega)
  have hidLen : ((f.drop 4).take 8).length = 8 := by rw [← hid, Mem.length_read]
  have hsize : (39 : Int) + (hashOf f).length = ((httpResponse (hashOf f)).length : Nat) := by
    rw [length_httpResponse]
    push_cast
    rfl
  have htotal : unsigned 32 (((httpResponse (hashOf f)).length : Int) + 12) =
      (answerFrame f).length := by
    rw [length_httpResponse, length_answerFrame hge, unsigned_eq_toNat (by omega) (by omega)]
    omega
  unfold pAnswer
  simp only [hhash, htemplate, Int.toNat_natCast, hread, hid]
  rw [if_neg (by omega), write_httpResponse, hsize, htotal]
  rw [Mem.write_write_append _ 0 4 _ _ rfl, Mem.write_write_front _ 0 12 _ _ (by
    rw [List.length_append, hidLen]
    rfl), List.append_assoc]
  exact congrArg some (Mem.read_write_self _ _ _ _ rfl)

lemma isReplyTo_answerFrame {f : List UInt8} (hge : 16 + 3 ≤ f.length)
    (hle : f.length ≤ 16 + 4048) : IsReplyTo (answerFrame f) f := by
  have hlen := length_hashOf hge
  have hresponse := length_httpResponse (hashOf f)
  have hid : ((f.drop 4).take 8).length = 8 := by
    rw [List.length_take, List.length_drop]
    omega
  constructor
  · exact lengthPrefixed_frame hid rfl (by omega)
  · rw [answerFrame, List.drop_left' (length_intToFourChar _), List.take_left' hid]

/-- The handling of a result: it is answered if its status is 20. -/
def AnswersResult (e : RelayEvent) (f : List UInt8) : Prop :=
  e = .frame (f.take 16) (f.drop 16) (if status f = 20 then some (answerFrame f) else none)

lemma lengthAt_twelve : 12 + 4 ≤ 16 := by decide

def responseCode : FrameCode UInt8 :=
  lengthCode 16 12 lengthAt_twelve (fun f => 16 + 3 ≤ f.length ∧ f.length ≤ 16 + 102)

lemma DubboResponse.length_le_block {f : List UInt8} (hf : DubboResponse f) :
    f.length ≤ 16 + 4048 := by
  have h := hf.length_le
  omega

lemma DubboResponse.isFrame {f : List UInt8} (hf : DubboResponse f) : responseCode.IsFrame f :=
  ⟨hf.prefixed, hf.le_length, hf.length_le⟩

lemma charVal_status {relay : TcpRelay} {f x : List UInt8} (hf : 16 + 3 ≤ f.length)
    (hc : content2 relay = f ++ x) : charVal (relay.rawBuf2 3) = status f := by
  have hread : relay.rawBuf2.read 0 f.length = f := Mem.read_first hc
  have hbyte : f[3]? = some (relay.rawBuf2 3) :=
    Mem.apply_of_read_eq hread 3 (by omega) (by omega)
  rw [status, List.getD_eq_getElem?_getD, hbyte, Option.getD_some]

lemma pOnReadResultsPass_answers (fresh : Mem UInt8) :
    ReadsFrames responseCode content2 RelayFits2 AnswersResult (pOnReadResultsPass fresh) := by
  constructor
  · intro relay hrelay hnone
    exact pOnReadResultsPass_ret fresh hrelay hnone
  · intro relay f x hrelay hf hc
    have hresponse : DubboResponse f := ⟨hf.1, hf.2.1, hf.2.2⟩
    have hge := hresponse.le_length
    obtain ⟨next, hpass, hnext, hcontent⟩ := pOnReadResultsPass_frame hrelay hf.1 hc
      (pAnswer_eq fresh hge hresponse.length_le_block hc)
    refine ⟨_, next, hpass, hnext, hcontent, ?_⟩
    rw [AnswersResult, charVal_status hge hc]

def written : RelayEvent → Option (List UInt8)
  | .frame _ _ written => written
  | .closeConn1 => none

/-- What a relay hands to `uv_write` for the consumer agent. -/
def writes (es : List RelayEvent) : List (List UInt8) := es.filterMap written

lemma writes_of_answers {es : List RelayEvent} {fs : List (List UInt8)}
    (h : List.Forall₂ AnswersResult es fs) :
    writes es = (fs.filter fun f => status f = 20).map answerFrame := by
  induction h with
  | nil => rfl
  | @cons e f es fs he _ ih =>
    unfold writes at ih ⊢
    rw [List.filterMap_cons, he, List.filter_cons, ih]
    by_cases hstatus : status f = 20
    · simp [hstatus, written]
    · simp [hstatus, written]

/-- However the stream `fs` of responses is cut, the relay takes all of it off its buffer and writes
one reply frame for each of the responses `answered`, in this order. -/
def WritesReplies (fresh : Mem UInt8) (relay : TcpRelay) (fs answered : List (List UInt8)) : Prop :=
  ∀ chunks, chunks.flatten = fs.flatten →
    ReadsFit pAllocBuffer2 (TcpRelay.read2 fresh) relay chunks →
    ∃ es relay', receiveAll (TcpRelay.read2 fresh) relay chunks = (es, some relay') ∧
      content2 relay' = [] ∧ List.Forall₂ IsReplyTo (writes es) answered

/-- Exactly the responses with status 20 are answered. -/
theorem results_answered (fresh : Mem UInt8) (relay : TcpRelay)
    (hmax : relay.maxBufferSize = pDefaultPackageSize) (hempty : relay.rawBuf2Size = 0)
    (fs : List (List UInt8)) (hfs : ∀ f ∈ fs, DubboResponse f) :
    WritesReplies fresh relay fs (fs.filter fun f => status f = 20) := by
  intro chunks hstream hfit
  obtain ⟨es, relay', hrec, -, hcontent, hlogs⟩ :=
    (read2_reassembles_of (pOnReadResultsPass_answers fresh)).receiveAll_frames chunks fs
      (fun f hf => (hfs f hf).isFrame) relay ⟨hmax, by omega⟩
      (by rw [content2, hempty, Mem.read_zero]) hstream hfit
  refine ⟨es, relay', hrec, hcontent, ?_⟩
  rw [writes_of_answers hlogs, List.forall₂_map_left_iff, List.forall₂_same]
  intro f hf
  have hresponse := hfs f (List.mem_filter.mp hf).1
  exact isReplyTo_answerFrame hresponse.le_length hresponse.length_le_block

/-- A response with status 31, a server-side timeout, to the request 7. -/
def timeoutResponse : List UInt8 :=
  [0xda, 0xbb, 6, 31, 7, 0, 0, 0, 0, 0, 0, 0, 0, 0, 0, 4, 49, 10, 52, 10]

lemma dubboResponse_timeoutResponse : DubboResponse timeoutResponse :=
  ⟨⟨by decide, by decide⟩, by decide, by decide⟩

lemma dubboResponse_resultFrame : DubboResponse resultFrame :=
  ⟨⟨by decide, by decide⟩, by decide, by decide⟩

theorem results_answered_one :
    WritesReplies (fun _ => 0) (initTcpRelay pDefaultPackageSize (fun _ => 0) (fun _ => 0))
      [timeoutResponse, resultFrame]
      ([timeoutResponse, resultFrame].filter fun f => status f = 20) := by
  apply results_answered _ _ rfl rfl
  intro f hf
  simp only [List.mem_cons, List.not_mem_nil, or_false] at hf
  rcases hf with rfl | rfl
  · exact dubboResponse_timeoutResponse
  · exact dubboResponse_resultFrame

/-- The response is taken off the buffer without a reply. -/
theorem timeout_unanswered :
    ¬ WritesReplies (fun _ => 0) (initTcpRelay pDefaultPackageSize (fun _ => 0) (fun _ => 0))
      [timeoutResponse] [timeoutResponse] := by
  have hwrites : writes (receiveAll (TcpRelay.read2 (fun _ => 0))
      (initTcpRelay pDefaultPackageSize (fun _ => 0) (fun _ => 0)) [timeoutResponse]).1 = [] := by
    decide
  intro h
  obtain ⟨es, relay', hrec, -, hreplies⟩ := h [timeoutResponse] rfl
    ⟨by decide, by decide, fun _ _ => trivial⟩
  rw [hrec] at hwrites
  rw [hwrites] at hreplies
  cases hreplies

end MeshAgent.Proofs
