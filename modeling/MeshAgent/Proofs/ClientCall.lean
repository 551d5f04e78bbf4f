import MeshAgent.Model.ConsumerAgent
import MeshAgent.Proofs.FrameBuffer

/-!
# One call of `c_read_connection_data`

A call waits or dispatches one frame. The frame is built in place in front of the body, and
its length field is whatever `atoi` yields.
-/

namespace MeshAgent.Proofs
open MeshAgent.Foundations MeshAgent.Model

/-- The bytes that a dispatch hands to `uv_write`: both stores in place, then the read. -/
def frameBytes (raw : Mem UInt8) (requestLength contentLength reqId : Int) : List UInt8 :=
  let offset := requestLength - 12
  ((raw.write offset (intToFourChar contentLength)).write (offset + 4) (longTo8bytes reqId)).read
    offset (unsigned 32 (addInt 12 contentLength))

lemma frameBytes_of_nonneg (raw : Mem UInt8) (h : Int) {c : Int} (id : Int) (hl : 0 ≤ c)
    (hr : c + 12 < 2 ^ 31) :
    frameBytes raw h c id = intToFourChar c ++ longTo8bytes id ++ raw.read h c.toNat := by
  have hlen : unsigned 32 (addInt 12 c) = 12 + c.toNat := by
    rw [addInt_of_lt (by omega) (by omega), unsigned_eq_toNat (by omega) (by omega)]
    omega
  have hstores : (raw.write (h - 12) (intToFourChar c)).write (h - 12 + 4) (longTo8bytes id) =
      raw.write (h - 12) (intToFourChar c ++ longTo8bytes id) := by
    rw [Mem.write_write_append _ _ _ _ _ (by rw [length_intToFourChar]; rfl)]
  have hsize : (intToFourChar c ++ longTo8bytes id).length = 12 := by
    rw [List.length_append, length_intToFourChar, length_longTo8bytes]
  have hend : h - 12 + ((12 : Nat) : Int) = h := by omega
  rw [frameBytes]
  simp only [hlen]
  rw [hstores, Mem.read_add, Mem.read_write_self _ _ _ _ hsize.symm, hend,
    Mem.read_write_after _ _ _ _ _ (by rw [hsize]; omega)]

/-- What the server looks like after a dispatch for the client `me`. -/
def dispatchedServer (server : TcpServer) (me : Nat) : TcpServer :=
  { server with
    reqId := server.reqId + eventLoopNum
    httpReqDict := Function.update server.httpReqDict (server.reqId % hashSlotNum) (some me) }

/-- The record is ready for the next request. -/
structure Emptied (httpReq httpReq' : HttpReq) : Prop where
  requestLength : httpReq'.requestLength = -1
  rawArraySize : httpReq'.rawArraySize = 0
  rawArrayMaxSize : httpReq'.rawArrayMaxSize = httpReq.rawArrayMaxSize

lemma dispatchRequest_cases {env : Environment} {lb : LoadBalancer} {server : TcpServer}
    {me : Nat} {httpReq : HttpReq} {unset : Bool} {now : Int} {r : ClientRead}
    (h : dispatchRequest env lb server me httpReq unset now = some r) :
    server.reqId + eventLoopNum < 2 ^ 63 ∧ 12 ≤ httpReq.requestLength ∧
    ∃ httpReq', r = .dispatch
      ⟨lb.selectIndex env.limits, server.reqId,
        frameBytes httpReq.rawArray httpReq.requestLength httpReq.contentLength server.reqId,
        httpReq.contentLength, unset⟩
      (lb.addRemain (lb.selectIndex env.limits) 1) (dispatchedServer server me) httpReq' ∧
      Emptied httpReq httpReq' := by
  unfold dispatchRequest at h
  simp only [LoadBalancer.selectEndpointTimeBased, sendToProviderAgent] at h
  split at h
  · simp at h
  · simp only [Option.some.injEq] at h
    exact ⟨by omega, by omega, _, h.symm, rfl, rfl, rfl⟩

lemma dispatchRequest_returns (env : Environment) (lb : LoadBalancer) {server : TcpServer}
    (me : Nat) (httpReq : HttpReq) (unset : Bool) (now : Int)
    (hid : server.reqId + eventLoopNum < 2 ^ 63) (hlen : 12 ≤ httpReq.requestLength) :
    ∃ r, dispatchRequest env lb server me httpReq unset now = some r := by
  unfold dispatchRequest
  simp only [LoadBalancer.selectEndpointTimeBased]
  rw [if_neg (by omega)]
  exact ⟨_, rfl⟩

/-- The bytes read so far, with the header block parsed. -/
def parsedRequest (env : Environment) (httpReq : HttpReq) (nread : Int) : HttpReq × Option Int :=
  parseHeader env { httpReq with rawArraySize := httpReq.rawArraySize + nread.toNat }

/-- `content_length` in a call that has the header block. -/
def callContentLength (env : Environment) (httpReq : HttpReq) (nread stale : Int) : Int :=
  headerContentLength (parsedRequest env httpReq nread).1 (parsedRequest env httpReq nread).2 stale

lemma parsedRequest_fst (env : Environment) (httpReq : HttpReq) (nread : Int) :
    (parsedRequest env httpReq nread).1 =
      { httpReq with
        rawArraySize := httpReq.rawArraySize + nread.toNat
        requestLength := (parsedRequest env httpReq nread).1.requestLength } := by
  unfold parsedRequest parseHeader
  split <;> rfl

lemma rawArray_parsedRequest (env : Environment) (httpReq : HttpReq) (nread : Int) :
    (parsedRequest env httpReq nread).1.rawArray = httpReq.rawArray := by
  rw [parsedRequest_fst]

lemma rawArrayMaxSize_parsedRequest (env : Environment) (httpReq : HttpReq) (nread : Int) :
    (parsedRequest env httpReq nread).1.rawArrayMaxSize = httpReq.rawArrayMaxSize := by
  rw [parsedRequest_fst]

lemma rawArray_of_parsedRequest {env : Environment} {httpReq parsed : HttpReq} {nread : Int}
    {value : Option Int} (h : parsedRequest env httpReq nread = (parsed, value)) :
    parsed.rawArray = httpReq.rawArray := by
  rw [← rawArray_parsedRequest env httpReq nread, h]

/-- The completeness test, which compares a sum of two `int`s with a `size_t`: a negative
sum and a sum that wraps both look incomplete. -/
lemma lt_sizeTOfInt_addInt_iff {n : Nat} {c h : Int} (hsize : n < 2 ^ 31)
    (hc : -2 ^ 31 ≤ c) (hc' : c < 2 ^ 31) (hh : 0 ≤ h) (hh' : h ≤ n) :
    n < sizeTOfInt (addInt c h) ↔ c + h < 0 ∨ (n : Int) < c + h := by
  by_cases hneg : c + h < 0
  · rw [addInt_of_lt (by omega) (by omega)]
    exact ⟨fun _ => .inl hneg, fun _ => lt_sizeTOfInt_of_neg (by omega) hneg (by omega)⟩
  · by_cases hwrap : c + h < 2 ^ 31
    · rw [addInt_of_lt (by omega) hwrap, sizeTOfInt_of_nonneg (by omega) (by omega)]
      omega
    · rw [addInt_of_ge (by omega) (by omega)]
      exact ⟨fun _ => .inr (by omega),
        fun _ => lt_sizeTOfInt_of_neg (by omega) (by omega) (by omega)⟩

section

variable {env : Environment} {lb : LoadBalancer} {server : TcpServer} {me : Nat}
  {httpReq : HttpReq} {nread stale now : Int}

lemma cReadConnectionData_header (hn : 0 < nread)
    (h : (parsedRequest env httpReq nread).1.requestLength < 0) :
    cReadConnectionData env lb server me httpReq nread stale now =
      some (.wait (parsedRequest env httpReq nread).1) := by
  rw [cReadConnectionData, if_pos hn]
  exact if_pos h

variable (lb server me stale now) in
lemma cReadConnectionData_parsed (hn : 0 < nread)
    (h : 0 ≤ (parsedRequest env httpReq nread).1.requestLength) :
    cReadConnectionData env lb server me httpReq nread stale now =
      if (parsedRequest env httpReq nread).1.rawArraySize <
          sizeTOfInt (addInt (callContentLength env httpReq nread stale)
            (parsedRequest env httpReq nread).1.requestLength) then
        some (.wait { (parsedRequest env httpReq nread).1 with
          contentLength := callContentLength env httpReq nread stale })
      else dispatchRequest env lb server me
        { (parsedRequest env httpReq nread).1 with
          contentLength := callContentLength env httpReq nread stale }
        (parsedRequest env httpReq nread).2.isNone now := by
  rw [cReadConnectionData, if_pos hn]
  exact if_neg (Int.not_lt.mpr h)

lemma cReadConnectionData_returns {parsed : HttpReq} {value : Option Int} (hn : 0 < nread)
    (hparse : parsedRequest env httpReq nread = (parsed, value))
    (hheader : 12 ≤ parsed.requestLength)
    (hid : server.reqId + eventLoopNum < 2 ^ 63)
    (hdone : ¬ parsed.rawArraySize <
      sizeTOfInt (addInt (headerContentLength parsed value stale) parsed.requestLength)) :
    ∃ lb' server' httpReq', cReadConnectionData env lb server me httpReq nread stale now =
      some (.dispatch ⟨lb.selectIndex env.limits, server.reqId,
        frameBytes httpReq.rawArray parsed.requestLength (headerContentLength parsed value stale)
          server.reqId, headerContentLength parsed value stale,
            value.isNone⟩ lb' server' httpReq') := by
  have hraw : parsed.rawArray = httpReq.rawArray := rawArray_of_parsedRequest hparse
  have hcall := cReadConnectionData_parsed lb server me stale now hn
    (by rw [hparse]; exact Int.le_trans (by decide) hheader)
  obtain ⟨r, hr⟩ := dispatchRequest_returns env lb me
    { parsed with contentLength := headerContentLength parsed value stale } value.isNone now hid
    hheader
  obtain ⟨-, -, httpReq', rfl, -⟩ := dispatchRequest_cases hr
  simp only [callContentLength, hparse, if_neg hdone, hr] at hcall
  rw [hraw] at hcall
  exact ⟨_, _, _, hcall⟩

/-- Everything that is true when a call dispatches. -/
theorem cReadConnectionData_dispatch {d : Dispatch} {lb' : LoadBalancer} {server' : TcpServer}
    {httpReq' : HttpReq}
    (h : cReadConnectionData env lb server me httpReq nread stale now =
      some (.dispatch d lb' server' httpReq')) :
    0 < nread ∧ 12 ≤ (parsedRequest env httpReq nread).1.requestLength ∧
    ¬ (parsedRequest env httpReq nread).1.rawArraySize <
      sizeTOfInt (addInt (callContentLength env httpReq nread stale)
        (parsedRequest env httpReq nread).1.requestLength) ∧
    server.reqId + eventLoopNum < 2 ^ 63 ∧
    d = ⟨lb.selectIndex env.limits, server.reqId,
      frameBytes httpReq.rawArray (parsedRequest env httpReq nread).1.requestLength
        (callContentLength env httpReq nread stale) server.reqId,
      callContentLength env httpReq nread stale, (parsedRequest env httpReq nread).2.isNone⟩ ∧
    lb' = lb.addRemain (lb.selectIndex env.limits) 1 ∧ server' = dispatchedServer server me ∧
    Emptied httpReq httpReq' := by
  by_cases hn : 0 < nread
  · by_cases hlen : 0 ≤ (parsedRequest env httpReq nread).1.requestLength
    · rw [cReadConnectionData_parsed _ _ _ _ _ hn hlen] at h
      split at h
      · simp at h
      · next hsize =>
        obtain ⟨hid, hge, httpReq'', hr, hlength, hempty, hmax⟩ := dispatchRequest_cases h
        simp only [ClientRead.dispatch.injEq] at hr
        obtain ⟨rfl, rfl, rfl, rfl⟩ := hr
        refine ⟨hn, hge, hsize, hid, ?_, rfl, rfl, hlength, hempty, ?_⟩
        · rw [rawArray_parsedRequest]
        · rw [hmax]
          exact rawArrayMaxSize_parsedRequest env httpReq nread
    · rw [cReadConnectionData_header hn (by omega)] at h
      simp at h
  · rw [cReadConnectionData, if_neg hn] at h
    split at h <;> simp at h

lemma cReadConnectionData_wait {httpReq' : HttpReq} (hn : 0 < nread)
    (h : cReadConnectionData env lb server me httpReq nread stale now = some (.wait httpReq')) :
    httpReq'.rawArray = httpReq.rawArray ∧
    httpReq'.responsePackage = httpReq.responsePackage ∧
    httpReq'.rawArraySize = httpReq.rawArraySize + nread.toNat ∧
    httpReq'.rawArrayMaxSize = httpReq.rawArrayMaxSize ∧
    httpReq'.requestLength = (parsedRequest env httpReq nread).1.requestLength := by
  have hparsed := parsedRequest_fst env httpReq nread
  by_cases hlen : 0 ≤ (parsedRequest env httpReq nread).1.requestLength
  · rw [cReadConnectionData_parsed _ _ _ _ _ hn hlen] at h
    split at h
    · simp only [Option.some.injEq, ClientRead.wait.injEq] at h
      rw [← h, hparsed]
      exact ⟨rfl, rfl, rfl, rfl, rfl⟩
    · obtain ⟨-, -, _, hr, -⟩ := dispatchRequest_cases h
      simp at hr
  · rw [cReadConnectionData_header hn (by omega)] at h
    simp only [Option.some.injEq, ClientRead.wait.injEq] at h
    rw [← h, hparsed]
    exact ⟨rfl, rfl, rfl, rfl, rfl⟩

lemma cReadConnectionData_frame {d : Dispatch} {lb' : LoadBalancer} {server' : TcpServer}
    {httpReq' : HttpReq}
    (h : cReadConnectionData env lb server me httpReq nread stale now =
      some (.dispatch d lb' server' httpReq')) :
    ∃ header n, header.length = 12 ∧
      httpReq'.rawArray =
        httpReq.rawArray.write ((parsedRequest env httpReq nread).1.requestLength - 12) header ∧
      httpReq'.responsePackage = httpReq.responsePackage ∧
      d.bytes =
        httpReq'.rawArray.read ((parsedRequest env httpReq nread).1.requestLength - 12) n := by
  obtain ⟨hn, hlen, hsize, -⟩ := cReadConnectionData_dispatch h
  rw [cReadConnectionData_parsed _ _ _ _ _ hn (by omega), if_neg hsize, dispatchRequest] at h
  simp only [LoadBalancer.selectEndpointTimeBased, sendToProviderAgent] at h
  split at h
  · simp at h
  · simp only [Option.some.injEq, ClientRead.dispatch.injEq] at h
    obtain ⟨rfl, -, -, rfl⟩ := h
    refine ⟨intToFourChar (callContentLength env httpReq nread stale) ++ longTo8bytes server.reqId,
      _, ?_, ?_, ?_, rfl⟩
    · rw [List.length_append, length_intToFourChar, length_longTo8bytes]
    · simp only [rawArray_parsedRequest]
      exact Mem.write_write_append _ _ _ _ _ (by rw [length_intToFourChar]; rfl)
    · rw [parsedRequest_fst]

end

/-- A run of decimal digits. -/
def IsDigits (s : List UInt8) : Prop := ∀ b ∈ s, 48 ≤ b ∧ b ≤ 57

instance : DecidablePred IsDigits := fun s => List.decidableBAll _ s

lemma isSpace_of_digit {b : UInt8} (h : 48 ≤ b ∧ b ≤ 57) : isSpace b = false := by
  have hge : (48 : Nat) ≤ b.toNat := UInt8.le_iff_toNat_le.mp h.1
  simp only [isSpace, Bool.or_eq_false_iff, decide_eq_false_iff_not, Bool.and_eq_false_iff,
    decide_eq_false_iff_not, UInt8.le_iff_toNat_le, UInt8.toNat_ofNat, ← UInt8.toNat_inj]
  omega

lemma digitsValue_append {digits r : List UInt8} {c : UInt8}
    (hdigits : IsDigits digits) (hc : ¬ (48 ≤ c ∧ c ≤ 57)) (acc : Nat) :
    digitsValue (digits ++ c :: r) acc = digitsValue digits acc := by
  induction digits generalizing acc with
  | nil => simp only [List.nil_append, digitsValue, if_neg hc]
  | cons b digits ih =>
    have hb := hdigits b (by simp)
    simp only [List.cons_append, digitsValue, if_pos hb]
    exact ih (fun b' hb' => hdigits b' (List.mem_cons_of_mem _ hb')) _

lemma atoi_digits (digits : List UInt8) {rest : List UInt8} {c : UInt8} (hne : digits ≠ [])
    (hdigits : IsDigits digits) (hc : ¬ (48 ≤ c ∧ c ≤ 57))
    (hsmall : digitsValue digits 0 < 2 ^ 31) :
    atoi (digits ++ c :: rest) = digitsValue digits 0 := by
  have hvalue := digitsValue_append (r := rest) hdigits hc 0
  obtain ⟨b, digits, rfl⟩ := List.exists_cons_of_ne_nil hne
  have hb := hdigits b (by simp)
  have hminus : b ≠ 45 := by rintro rfl; exact absurd hb (by decide)
  have hplus : b ≠ 43 := by rintro rfl; exact absurd hb (by decide)
  rw [atoi, List.cons_append, List.dropWhile_cons_of_neg (by rw [isSpace_of_digit hb]; simp)]
  rw [List.cons_append] at hvalue
  split
  · next heq => exact absurd (List.cons.inj heq).1 hminus
  · next heq => exact absurd (List.cons.inj heq).1 hplus
  · rw [hvalue]
    generalize digitsValue (b :: digits) 0 = n at hsmall
    rw [max_eq_right (by omega), min_eq_right (by omega)]
    exact signed_eq_self (k := 31) (by omega) (by omega)

lemma atoi_minus_digits (digits : List UInt8) {rest : List UInt8} {c : UInt8}
    (hdigits : IsDigits digits) (hc : ¬ (48 ≤ c ∧ c ≤ 57))
    (hsmall : digitsValue digits 0 ≤ 2 ^ 31) :
    atoi (45 :: (digits ++ c :: rest)) = -digitsValue digits 0 := by
  rw [atoi, List.dropWhile_cons_of_neg (by decide)]
  simp only
  rw [digitsValue_append hdigits hc 0]
  generalize digitsValue digits 0 = n at hsmall
  rw [max_eq_right (by omega), min_eq_right (by omega)]
  exact signed_eq_self (k := 31) (by omega) (by omega)

lemma read_value {raw : Mem UInt8} {size max v : Nat} {hdr x : List UInt8}
    (h : raw.read 0 size = hdr ++ x) (hmax : size ≤ max) (hv : v ≤ hdr.length) :
    ∃ y, raw.read v ((max : Int) - v).toNat = hdr.drop v ++ y := by
  have hlen := Mem.length_of_read_append h
  have hall : raw.read 0 max = hdr ++ (x ++ raw.read size (max - size)) := by
    obtain ⟨k, rfl⟩ := Nat.exists_eq_add_of_le hmax
    rw [Mem.read_add, h, List.append_assoc, zero_add, Nat.add_sub_cancel_left]
  have hdrop := Mem.drop_read raw 0 max v (by omega)
  rw [hall, zero_add, List.drop_append_of_le_length hv] at hdrop
  have hcount : ((max : Int) - v).toNat = max - v := by omega
  exact ⟨_, by rw [hcount, ← hdrop]⟩

lemma headerContentLength_of_value (httpReq : HttpReq) {v : Nat} {hdr x : List UInt8}
    (stale : Int) (h : httpReq.rawArray.read 0 httpReq.rawArraySize = hdr ++ x)
    (hmax : httpReq.rawArraySize ≤ httpReq.rawArrayMaxSize) (hv : v ≤ hdr.length) :
    ∃ y, headerContentLength httpReq (some v) stale = atoi (hdr.drop v ++ y) := by
  obtain ⟨y, hy⟩ := read_value h hmax hv
  exact ⟨y, by rw [headerContentLength, hy]⟩

/-! ### Before the header block is complete -/

/-- A record that has buffered `p` and has not seen a header block yet. -/
structure HeaderPhase (httpReq : HttpReq) (p : List UInt8) : Prop where
  unparsed : httpReq.requestLength < 0
  max : httpReq.rawArrayMaxSize = 2 * defaultPackageSize
  content : httpReq.rawArray.read 0 httpReq.rawArraySize = p

lemma headerPhase_init (raw response : Mem UInt8) (contentLength tsReqBeg : Int) :
    HeaderPhase (initHttpReq (2 * defaultPackageSize) raw response contentLength tsReqBeg) [] where
  unparsed := Int.negSucc_lt_zero 0
  max := rfl
  content := rfl

section

variable {env : Environment} {httpReq : HttpReq} {p chunk : List UInt8}

variable (env chunk) in
lemma parsedRequest_store (h : HeaderPhase httpReq p) :
    parsedRequest env (httpReq.store chunk) chunk.length =
      ({ httpReq with
          rawArray := httpReq.rawArray.write httpReq.rawArraySize chunk
          rawArraySize := httpReq.rawArraySize + chunk.length
          requestLength := (env.phrParseRequest (p ++ chunk)).ret },
        if 0 ≤ (env.phrParseRequest (p ++ chunk)).ret then
          (env.phrParseRequest (p ++ chunk)).value else none) := by
  rw [parsedRequest, parseHeader, HttpReq.store]
  simp only [Int.toNat_natCast]
  rw [if_pos h.unparsed, read_store, h.content]

variable (env chunk) in
lemma parsedRequest_remembered (h : 0 ≤ httpReq.requestLength) :
    parsedRequest env (httpReq.store chunk) chunk.length =
      ({ httpReq.store chunk with rawArraySize := httpReq.rawArraySize + chunk.length }, none) := by
  rw [parsedRequest, parseHeader, HttpReq.store]
  exact if_neg (Int.not_lt.mpr h)

end

end MeshAgent.Proofs
