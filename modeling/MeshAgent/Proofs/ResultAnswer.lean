import MeshAgent.Foundations.CString
import MeshAgent.Proofs.RelayAnswers

/-!
# The HTTP answer to a result

The answer is built from a template with room for a length of two digits, in a block of the
size of the buffer that the result came in.
-/

namespace MeshAgent.Proofs
open MeshAgent.Foundations MeshAgent.Model

/-- The status line and the name of the only field. -/
def headBegin : List UInt8 :=
  ascii ['H', 'T', 'T', 'P', '/', '1', '.', '1', ' ', '2', '0', '0', ' ', 'O', 'K', '\r', '\n',
    'C', 'o', 'n', 't', 'e', 'n', 't', '-', 'L', 'e', 'n', 'g', 't', 'h', ':']

def headEnd : List UInt8 := ascii ['\r', '\n', '\r', '\n']

/-- An HTTP response with the given `Content-Length`, which may have blanks around it, and
the given body. -/
def IsHttpResponse (res contentLength body : List UInt8) : Prop :=
  ∃ before after : List UInt8, (∀ c ∈ before ++ after, c = 32) ∧
    res = headBegin ++ (before ++ (contentLength ++ after) ++ (headEnd ++ body))

/-- The reply to the Dubbo response `f`: its length field, the id of the response, and its
result as the body of an HTTP response. -/
structure WellFormedAnswer (reply f : List UInt8) : Prop where
  isReplyTo : IsReplyTo reply f
  response : IsHttpResponse (reply.drop 12) (decimal (f.length - 19)) (hashOf f)

/-- The three bytes behind the field name. -/
def lengthSlot (n : Nat) : List UInt8 :=
  32 :: (intToString n ++ if n < 10 then [32] else [])

lemma length_lengthSlot (n : Nat) : (lengthSlot n).length = 3 := by
  unfold lengthSlot intToString
  by_cases h : n < 10
  · rw [if_pos h, if_pos (by omega)]
    rfl
  · rw [if_neg h, if_neg (by omega)]
    rfl

lemma httpResponse_eq (hash : List UInt8) :
    httpResponse hash = headBegin ++ (lengthSlot hash.length ++ (headEnd ++ hash)) := by
  have htake : responseTemplate.take 33 = headBegin ++ [32] := by decide
  have hone : responseTemplate.drop (33 + 1) = 32 :: headEnd := by decide
  have htwo : responseTemplate.drop (33 + 2) = headEnd := by decide
  unfold httpResponse lengthSlot intToString
  by_cases h : hash.length < 10
  · rw [if_pos h, if_pos (by omega), htake, List.length_singleton, hone]
    simp
  · rw [if_neg h, if_neg (by omega), htake, List.length_cons, List.length_singleton, htwo]
    simp

lemma intToString_eq_decimal : ∀ n : Nat, n < 100 → intToString n = decimal n := by
  decide

lemma two_lt_length_decimal {n : Nat} (h : 100 ≤ n) : 2 < (decimal n).length := by
  by_contra hshort
  rw [decimal, List.length_map, Nat.not_lt,
    Nat.length_toDigits_le_iff (by decide) (by decide)] at hshort
  omega

lemma lengthSlot_ne {n : Nat} (h : 100 ≤ n) (before after : List UInt8) :
    before ++ (decimal n ++ after) ≠ lengthSlot n := by
  intro heq
  have hlong := two_lt_length_decimal h
  have hlen := congrArg List.length heq
  rw [length_lengthSlot, List.length_append, List.length_append] at hlen
  have hbefore : before = [] := List.length_eq_zero_iff.mp (by omega)
  obtain ⟨d, ds, hd⟩ := List.exists_cons_of_ne_nil (decimal_ne_nil n)
  rw [hbefore, hd, lengthSlot, List.nil_append, List.cons_append] at heq
  have hdigit := decimal_digits n d (by rw [hd]; exact List.mem_cons_self)
  rw [(List.cons.inj heq).1] at hdigit
  exact absurd hdigit (by decide)

lemma isHttpResponse_iff (hash : List UInt8) :
    IsHttpResponse (httpResponse hash) (decimal hash.length) hash ↔ hash.length < 100 := by
  rw [httpResponse_eq]
  constructor
  · rintro ⟨before, after, -, heq⟩
    by_contra hlong
    have hslot := List.append_cancel_right (List.append_cancel_left heq)
    exact lengthSlot_ne (by omega) before after hslot.symm
  · intro hshort
    refine ⟨[32], if hash.length < 10 then [32] else [], ?_, ?_⟩
    · intro c hc
      split at hc <;> simpa using hc
    · rw [lengthSlot, intToString_eq_decimal _ hshort]
      rfl

section

variable {fresh : Mem UInt8} {relay : TcpRelay} {f x : List UInt8}

lemma wellFormedAnswer_iff (hge : 16 + 3 ≤ f.length) (hle : f.length ≤ 16 + 4048) :
    WellFormedAnswer (answerFrame f) f ↔ f.length - 16 ≤ 102 := by
  have hlen := length_hashOf hge
  have hid : ((f.drop 4).take 8).length = 8 := by
    rw [List.length_take, List.length_drop]
    omega
  have hdrop : (answerFrame f).drop 12 = httpResponse (hashOf f) := by
    rw [answerFrame, ← List.append_assoc, List.drop_left']
    rw [List.length_append, length_intToFourChar, hid]
  have hiff := isHttpResponse_iff (hashOf f)
  rw [hlen] at hiff
  constructor
  · intro h
    have hresponse := h.response
    rw [hdrop] at hresponse
    have := hiff.mp hresponse
    omega
  · intro h
    refine ⟨isReplyTo_answerFrame hge hle, ?_⟩
    rw [hdrop]
    exact hiff.mpr (by omega)

/-- The pass that takes the response `f` off the buffer writes a well-formed answer. -/
def AnswersWell (fresh : Mem UInt8) (relay : TcpRelay) (f : List UInt8) : Prop :=
  ∃ reply next, pOnReadResultsPass fresh relay =
      .emit (.frame (f.take 16) (f.drop 16) (some reply)) (some next) ∧
    WellFormedAnswer reply f

lemma pOnReadResultsPass_answer (fresh : Mem UInt8) (hrelay : RelayFits2 relay)
    (hf : LengthPrefixed 16 12 f) (hge : 16 + 3 ≤ f.length) (hle : f.length ≤ 16 + 4048)
    (hstatus : status f = 20) (hc : content2 relay = f ++ x) :
    ∃ next, pOnReadResultsPass fresh relay =
      .emit (.frame (f.take 16) (f.drop 16) (some (answerFrame f))) (some next) := by
  have hanswer := pAnswer_eq fresh hge hle hc
  obtain ⟨next, hpass, -, -⟩ := pOnReadResultsPass_frame hrelay hf hc hanswer
  rw [charVal_status hge hc, if_pos hstatus] at hpass
  exact ⟨next, hpass⟩

lemma answersWell_iff_answerFrame (fresh : Mem UInt8) (hrelay : RelayFits2 relay)
    (hf : LengthPrefixed 16 12 f) (hge : 16 + 3 ≤ f.length) (hle : f.length ≤ 16 + 4048)
    (hstatus : status f = 20) (hc : content2 relay = f ++ x) :
    AnswersWell fresh relay f ↔ WellFormedAnswer (answerFrame f) f := by
  obtain ⟨next, hpass⟩ := pOnReadResultsPass_answer fresh hrelay hf hge hle hstatus hc
  constructor
  · rintro ⟨reply, next', hpass', hwell⟩
    rw [hpass] at hpass'
    cases hpass'
    exact hwell
  · exact fun hwell => ⟨answerFrame f, next, hpass, hwell⟩

/-- Of the responses with status 20 whose answer fits its block, exactly those with a result
of at most 99 bytes are answered well. -/
theorem answer_wellFormed_iff (fresh : Mem UInt8) (hrelay : RelayFits2 relay)
    (hf : LengthPrefixed 16 12 f) (hge : 3 ≤ f.length - 16) (hle : f.length - 16 + 48 ≤ 4096)
    (hstatus : status f = 20) (hc : content2 relay = f ++ x) :
    AnswersWell fresh relay f ↔ f.length - 16 ≤ 102 := by
  rw [answersWell_iff_answerFrame fresh hrelay hf (by omega) (by omega) hstatus hc]
  exact wellFormedAnswer_iff (by omega) (by omega)

end

/-- A relay that has received `f`. -/
def relayHolding (f : List UInt8) : TcpRelay :=
  { initTcpRelay pDefaultPackageSize (fun _ => 0) (Mem.write (fun _ => 0) 0 f) with
    rawBuf2Size := f.length }

lemma content2_relayHolding (f : List UInt8) : content2 (relayHolding f) = f ++ [] := by
  rw [List.append_nil]
  exact Mem.read_write_self _ _ _ _ rfl

theorem answer_wellFormed_four_bytes :
    AnswersWell (fun _ => 0) (relayHolding resultFrame) resultFrame ↔
      resultFrame.length - 16 ≤ 102 :=
  answer_wellFormed_iff _ ⟨rfl, by decide⟩ dubboResponse_resultFrame.prefixed (by decide)
    (by decide) (by decide) (content2_relayHolding _)

/-- A response with status 20 to the id 7 whose result has 100 bytes. -/
def longResultFrame : List UInt8 :=
  [0xda, 0xbb, 6, 20, 7, 0, 0, 0, 0, 0, 0, 0, 0, 0, 0, 103] ++
    ([49, 10] ++ List.replicate 100 50 ++ [10])

theorem longResult_malformed :
    LengthPrefixed 16 12 longResultFrame ∧ longResultFrame.length - 16 = 103 ∧
      status longResultFrame = 20 ∧ RelayFits2 (relayHolding longResultFrame) ∧
      content2 (relayHolding longResultFrame) = longResultFrame ++ [] ∧
      ¬ AnswersWell (fun _ => 0) (relayHolding longResultFrame) longResultFrame := by
  have hprefixed : LengthPrefixed 16 12 longResultFrame := ⟨by decide, by decide⟩
  have hfits : RelayFits2 (relayHolding longResultFrame) := ⟨rfl, by decide⟩
  refine ⟨hprefixed, by decide, by decide, hfits, content2_relayHolding _, ?_⟩
  rw [answersWell_iff_answerFrame _ hfits hprefixed (by decide) (by decide) (by decide)
    (content2_relayHolding _), wellFormedAnswer_iff (by decide) (by decide)]
  decide

/-- For a Dubbo body of `length` bytes, everything is read from the frame and stored in
`response_all`, and the answer fits the buffer that the consumer agent reads it into. -/
structure AnswerInBounds (length : Int) : Prop where
  copied_nonneg : 0 ≤ length - 3
  reads_le : ∀ block ∈ pAnswerReads length, 0 ≤ block.1 ∧ block.1 + block.2 ≤ 16 + length
  writes_le : ∀ block ∈ pAnswerWrites length,
    0 ≤ block.1 ∧ block.1 + block.2 ≤ pDefaultPackageSize
  size_le : pAnswerSize length ≤ pDefaultPackageSize
  response_le : pAnswerSize length ≤ defaultResponseSize

/-- The pass that takes the response `f` off the buffer stays in bounds and writes an answer
of the size it computes. -/
def AnswersInBounds (fresh : Mem UInt8) (relay : TcpRelay) (f : List UInt8) : Prop :=
  AnswerInBounds (f.length - 16) ∧
    ∃ reply next, pOnReadResultsPass fresh relay =
        .emit (.frame (f.take 16) (f.drop 16) (some reply)) (some next) ∧
      (reply.length : Int) = pAnswerSize (f.length - 16)

lemma answerInBounds_of {length : Int} (hl : 3 ≤ length) (hr : length ≤ 4048) :
    AnswerInBounds length := by
  have hcopied : (sizeTOfInt (length - 3) : Int) = length - 3 := by
    rw [sizeTOfInt_of_nonneg (by omega) (by omega)]
    omega
  have hdigits := length_intToString (length - 3)
  have hcap : pDefaultPackageSize = 4096 := rfl
  have hconsumer : defaultResponseSize = 4096 := rfl
  have htemplate : responseTemplateLen = 39 := rfl
  refine ⟨by omega, ?_, ?_, ?_, ?_⟩
  · intro block hblock
    simp only [pAnswerReads, List.mem_cons, List.not_mem_nil, or_false] at hblock
    rcases hblock with rfl | rfl | rfl | rfl <;> simp only <;> omega
  · intro block hblock
    simp only [pAnswerWrites, List.mem_cons, List.not_mem_nil, or_false] at hblock
    rcases hblock with rfl | rfl | rfl | rfl | rfl <;> simp only <;> omega
  · rw [pAnswerSize]
    omega
  · rw [pAnswerSize]
    omega

lemma AnswerInBounds.bounds {length : Int} (h : AnswerInBounds length) :
    3 ≤ length ∧ length ≤ 4048 := by
  have hcopied := h.copied_nonneg
  have hsize := h.size_le
  have hcap : pDefaultPackageSize = 4096 := rfl
  have htemplate : responseTemplateLen = 39 := rfl
  rw [pAnswerSize] at hsize
  omega

/-- Of the responses with status 20 that the buffer can hold, exactly those with a body of 3
to 4048 bytes are answered in bounds. -/
theorem answer_inBounds_iff (fresh : Mem UInt8) {relay : TcpRelay} {f x : List UInt8}
    (hrelay : RelayFits2 relay) (hf : LengthPrefixed 16 12 f) (hstatus : status f = 20)
    (hc : content2 relay = f ++ x) :
    AnswersInBounds fresh relay f ↔ 3 ≤ f.length - 16 ∧ f.length - 16 ≤ 4048 := by
  have hlen := hf.le_length
  constructor
  · rintro ⟨hbounds, -⟩
    have := hbounds.bounds
    omega
  · rintro ⟨hl, hr⟩
    obtain ⟨next, hpass⟩ :=
      pOnReadResultsPass_answer fresh hrelay hf (by omega) (by omega) hstatus hc
    refine ⟨answerInBounds_of (by omega) (by omega), answerFrame f, next, hpass, ?_⟩
    have htemplate : responseTemplateLen = 39 := rfl
    rw [length_answerFrame (by omega), pAnswerSize]
    omega

theorem answer_inBounds_four_bytes :
    AnswersInBounds (fun _ => 0) (relayHolding resultFrame) resultFrame ↔
      3 ≤ resultFrame.length - 16 ∧ resultFrame.length - 16 ≤ 4048 :=
  answer_inBounds_iff _ ⟨rfl, by decide⟩ dubboResponse_resultFrame.prefixed (by decide)
    (content2_relayHolding _)

/-- A response with status 20 to the id 7 for a result without a value. -/
def nullResultFrame : List UInt8 :=
  [0xda, 0xbb, 6, 20, 7, 0, 0, 0, 0, 0, 0, 0, 0, 0, 0, 2, 50, 10]

theorem nullResult_outOfBounds :
    LengthPrefixed 16 12 nullResultFrame ∧ status nullResultFrame = 20 ∧
      RelayFits2 (relayHolding nullResultFrame) ∧
      content2 (relayHolding nullResultFrame) = nullResultFrame ++ [] ∧
      ¬ AnswersInBounds (fun _ => 0) (relayHolding nullResultFrame) nullResultFrame := by
  refine ⟨⟨by decide, by decide⟩, by decide, ⟨rfl, by decide⟩, content2_relayHolding _, ?_⟩
  rintro ⟨hbounds, -⟩
  exact absurd hbounds.bounds.1 (by decide)

end MeshAgent.Proofs
