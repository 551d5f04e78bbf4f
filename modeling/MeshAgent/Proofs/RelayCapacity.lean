import MeshAgent.Proofs.Reassembly
import MeshAgent.Proofs.RequestDispatch

/-!
# What the consumer sends and the provider holds

A dispatched frame arrives at a relay whose buffer may already hold its beginning. The
relay takes the frame off when it is complete, unless the buffer is full before.
-/

namespace MeshAgent.Proofs
open MeshAgent.Foundations MeshAgent.Model

/-- The frames with a 12-byte header and the length at 0, whatever they carry. -/
def anyCode : FrameCode UInt8 := lengthCode 12 0 lengthAt_zero (fun _ => True)

lemma read1_accumulates (b : Build) (fresh : Mem UInt8) :
    Accumulates anyCode content1 pAllocBuffer1 RelayFits1 (TcpRelay.read1 b fresh) := by
  intro relay chunk hrelay hne hlen hnone
  have hcap : pDefaultPackageSize = 4096 := rfl
  have hpos : 0 < chunk.length := List.length_pos_iff.mpr hne
  obtain ⟨hmax, hsize⟩ := hrelay
  rw [pAllocBuffer1, hmax] at hlen
  have hstored := read_store relay.rawBuf1 relay.rawBuf1Size chunk
  rw [content1, ← hstored] at hnone
  have hbuffered := bufferedFrame_of_next_eq_none (by decide) (by omega) hnone
  refine ⟨{ relay with
    rawBuf1 := relay.rawBuf1.write relay.rawBuf1Size chunk
    rawBuf1Size := relay.rawBuf1Size + chunk.length }, ?_, ⟨hmax, ?_⟩, hstored⟩
  · rw [TcpRelay.read1, pReadConnectionDataHttpReq, if_pos (by omega)]
    apply tracedLoop_ret
    rw [pReadConnectionDataHttpReqPass, Int.toNat_natCast]
    simp only [hbuffered]
  · simp only
    omega

lemma read1_completes (b : Build) (fresh : Mem UInt8) {relay : TcpRelay} {chunk f x : List UInt8}
    (hrelay : RelayFits1 relay) (hne : chunk ≠ []) (hlen : chunk.length ≤ pAllocBuffer1 relay)
    (hf : LengthPrefixed 12 0 f) (hcontent : content1 relay ++ chunk = f ++ x) :
    ∃ written es, (TcpRelay.read1 b fresh relay chunk).1 =
      .frame (f.take 12) (f.drop 12) written :: es := by
  have hcap : pDefaultPackageSize = 4096 := rfl
  have hpos : 0 < chunk.length := List.length_pos_iff.mpr hne
  obtain ⟨hmax, hsize⟩ := hrelay
  rw [pAllocBuffer1, hmax] at hlen
  have hstored := read_store relay.rawBuf1 relay.rawBuf1Size chunk
  rw [← content1, hcontent] at hstored
  have hbuffered := bufferedFrame_of_frame hf (by decide) (by omega) hstored
  obtain ⟨hheader, hpayload⟩ := read_header_payload hf hstored
  rw [TcpRelay.read1, pReadConnectionDataHttpReq, if_pos (by omega), Int.toNat_natCast, tracedLoop,
    pReadConnectionDataHttpReqPass]
  simp only [hbuffered]
  rw [← hheader, ← hpayload]
  cases pTranscode b fresh _ _ with
  | none => exact ⟨none, [], rfl⟩
  | some result => exact ⟨some result.2, _, rfl⟩

/-- While the frame `f` arrives, in whatever reads, there is always room for the next one,
and the read that completes it, and may bring more, hands it to the handler. -/
structure Receives (b : Build) (fresh : Mem UInt8) (relay : TcpRelay) (f : List UInt8) : Prop where
  room : ∀ chunks y, content1 relay ++ chunks.flatten ++ y = f → y ≠ [] →
    ReadsFit pAllocBuffer1 (TcpRelay.read1 b fresh) relay chunks →
    ∃ relay', receiveAll (TcpRelay.read1 b fresh) relay chunks = ([], some relay') ∧
      0 < pAllocBuffer1 relay'
  extracts : ∀ chunks y x, content1 relay ++ chunks.flatten ++ y = f → y ≠ [] →
    ReadsFit pAllocBuffer1 (TcpRelay.read1 b fresh) relay (chunks ++ [y ++ x]) →
    ∃ written es, (receiveAll (TcpRelay.read1 b fresh) relay (chunks ++ [y ++ x])).1 =
      .frame (f.take 12) (f.drop 12) written :: es

lemma receives_of_le {b : Build} {fresh : Mem UInt8} {relay : TcpRelay} {f : List UInt8}
    (hrelay : RelayFits1 relay) (hf : LengthPrefixed 12 0 f)
    (hfit : f.length ≤ pDefaultPackageSize) : Receives b fresh relay f := by
  have hframe : anyCode.IsFrame f := ⟨hf, trivial⟩
  constructor
  · intro chunks y hpart hy hreads
    have hpos : 0 < y.length := List.length_pos_iff.mpr hy
    obtain ⟨relay', hrec, ⟨hmax, -⟩, hcont⟩ :=
      (read1_accumulates b fresh).receiveAll_incomplete chunks y hy relay hrelay
        (hpart ▸ hframe) hreads
    have hlen := congrArg List.length hpart
    rw [← hcont, List.length_append, content1, Mem.length_read] at hlen
    exact ⟨relay', hrec, by rw [pAllocBuffer1, hmax]; omega⟩
  · intro chunks y x hpart hy hreads
    obtain ⟨relay', hrec, hrelay', hcont⟩ :=
      (read1_accumulates b fresh).receiveAll_incomplete chunks y hy relay hrelay
        (hpart ▸ hframe) (hreads.left)
    have hlast := hreads.right _ _ _ hrec
    obtain ⟨written, es, hdel⟩ := read1_completes b fresh hrelay' hlast.1 hlast.2.1 hf
      (x := x) (by rw [hcont, ← List.append_assoc, hpart])
    rw [receiveAll_append _ _ _ hrec]
    refine ⟨written, ?_⟩
    cases hread : TcpRelay.read1 b fresh relay' (y ++ x) with
    | mk events result =>
      rw [hread] at hdel
      simp only at hdel
      cases result with
      | none => exact ⟨es, by simp [receiveAll, hread, hdel]⟩
      | some t => exact ⟨es, by simp [receiveAll, hread, hdel]⟩

lemma not_receives_of_gt (b : Build) (fresh raw1 raw2 : Mem UInt8) {f : List UInt8}
    (hf : LengthPrefixed 12 0 f) (hlong : pDefaultPackageSize < f.length) :
    ¬ Receives b fresh (initTcpRelay pDefaultPackageSize raw1 raw2) f := by
  have hcap : pDefaultPackageSize = 4096 := rfl
  intro h
  have hframe : anyCode.IsFrame f := ⟨hf, trivial⟩
  have hfull : (f.take pDefaultPackageSize).length = pDefaultPackageSize := by
    rw [List.length_take]
    omega
  have hy : f.drop pDefaultPackageSize ≠ [] := by
    rw [ne_eq, List.drop_eq_nil_iff]
    omega
  have hreads : ReadsFit pAllocBuffer1 (TcpRelay.read1 b fresh)
      (initTcpRelay pDefaultPackageSize raw1 raw2) [f.take pDefaultPackageSize] := by
    refine ⟨?_, Nat.le_of_eq hfull, fun _ _ => trivial⟩
    intro hnil
    rw [hnil] at hfull
    simp [hcap] at hfull
  have hpart : content1 (initTcpRelay pDefaultPackageSize raw1 raw2) ++
      [f.take pDefaultPackageSize].flatten ++ f.drop pDefaultPackageSize = f := by
    simp [content1, initTcpRelay]
  obtain ⟨relay', hrec, hroom⟩ := h.room _ _ hpart hy hreads
  obtain ⟨relay'', hrec', ⟨hmax, -⟩, hcont⟩ :=
    (read1_accumulates b fresh).receiveAll_incomplete _ _ hy _ ⟨rfl, by simp [initTcpRelay]⟩
      (hpart.symm ▸ hframe) hreads
  rw [hrec, Prod.mk.injEq, Option.some.injEq] at hrec'
  have hlen := congrArg List.length hcont
  rw [← hrec'.2] at hlen hmax
  simp only [content1, Mem.length_read, initTcpRelay, Mem.read_zero, List.nil_append,
    List.flatten_cons, List.flatten_nil, List.append_nil] at hlen
  rw [pAllocBuffer1, hmax] at hroom
  omega

section

variable {env : Environment} {lb lb' : LoadBalancer} {server server' : TcpServer} {me : Nat}
  {httpReq httpReq' : HttpReq} {nread stale now : Int} {d : Dispatch}

lemma lengthPrefixed_dispatch
    (hcall : cReadConnectionData env lb server me httpReq nread stale now =
      some (.dispatch d lb' server' httpReq'))
    (hblock : (parsedRequest env httpReq nread).1.requestLength ≤
      (parsedRequest env httpReq nread).1.rawArraySize)
    (hbuffer : (parsedRequest env httpReq nread).1.rawArraySize ≤ 2 * defaultPackageSize)
    (hstale : -2 ^ 31 ≤ stale) (hstale' : stale < 2 ^ 31) (hc : 0 ≤ d.contentLength) :
    LengthPrefixed 12 0 d.bytes ∧ (d.bytes.length : Int) = 12 + d.contentLength := by
  have hcap : defaultPackageSize = 4096 := rfl
  obtain ⟨hn, hheader, hdone, -, rfl, -, -, -⟩ := cReadConnectionData_dispatch hcall
  simp only at hc ⊢
  have hrange : callContentLength env httpReq nread stale < 2 ^ 31 := by
    rw [callContentLength]
    exact (headerContentLength_mem_int _ _ hstale hstale').2
  rw [lt_sizeTOfInt_addInt_iff (by omega) (by omega) hrange (by omega) hblock] at hdone
  generalize callContentLength env httpReq nread stale = c at *
  rw [frameBytes_of_nonneg _ _ _ hc (by omega), List.append_assoc]
  refine ⟨lengthPrefixed_frame (length_longTo8bytes _) (by rw [Mem.length_read]; omega)
    (by omega), ?_⟩
  simp only [List.length_append, length_intToFourChar, length_longTo8bytes, Mem.length_read]
  omega

end

/-- Every relay receives a dispatched frame, whatever the relay holds of it already, exactly
when header and body of the frame fit the buffer of a relay. -/
theorem relay_receives_iff (env : Environment) (lb lb' : LoadBalancer) (server server' : TcpServer)
    (me : Nat) (httpReq httpReq' : HttpReq) (nread stale now : Int) (d : Dispatch)
    (hcall : cReadConnectionData env lb server me httpReq nread stale now =
      some (.dispatch d lb' server' httpReq'))
    (hblock : (parsedRequest env httpReq nread).1.requestLength ≤
      (parsedRequest env httpReq nread).1.rawArraySize)
    (hbuffer : (parsedRequest env httpReq nread).1.rawArraySize ≤ 2 * defaultPackageSize)
    (hstale : -2 ^ 31 ≤ stale) (hstale' : stale < 2 ^ 31) (hc : 0 ≤ d.contentLength) :
    (∀ (b : Build) (fresh : Mem UInt8) (relay : TcpRelay),
      relay.maxBufferSize = pDefaultPackageSize → relay.rawBuf1Size ≤ pDefaultPackageSize →
      Receives b fresh relay d.bytes) ↔
    12 + d.contentLength ≤ pDefaultPackageSize := by
  obtain ⟨hframe, hlen⟩ := lengthPrefixed_dispatch hcall hblock hbuffer hstale hstale' hc
  constructor
  · intro hall
    by_contra hlong
    exact not_receives_of_gt .plain (fun _ => 0) (fun _ => 0) (fun _ => 0) hframe (by omega)
      (hall .plain (fun _ => 0) (initTcpRelay pDefaultPackageSize (fun _ => 0) (fun _ => 0)) rfl
        (Nat.zero_le _))
  · intro hfit b fresh relay hmax hsize
    exact receives_of_le ⟨hmax, hsize⟩ hframe (by omega)

lemma clientCall_post (contentLength : List Char) (body : List UInt8) (hne : contentLength ≠ [])
    (hdigits : IsDigits (ascii contentLength))
    (hbody : body.length = digitsValue (ascii contentLength) 0)
    (hfit : (postHeader contentLength).length + body.length ≤ 2 * defaultPackageSize) :
    (∃ d lb' server' httpReq', clientCall (postEnvironment contentLength) 1 freshRequest
        (firstCall (postHeader contentLength ++ body)) = some (.dispatch d lb' server' httpReq') ∧
      d.contentLength = body.length) ∧
    ∃ parsed value, parsedRequest (postEnvironment contentLength)
        (freshRequest.store (postHeader contentLength ++ body))
        (postHeader contentLength ++ body).length = (parsed, value) ∧
      parsed.requestLength ≤ parsed.rawArraySize ∧
      parsed.rawArraySize ≤ 2 * defaultPackageSize := by
  have haccept := acceptsHeader_post contentLength hne hdigits
  rw [← hbody] at haccept
  have hlong := haccept.length
  constructor
  · obtain ⟨d, lb', server', httpReq', hcall, -, hc, -⟩ :=
      (clientCall_complete 1 (firstCall (postHeader contentLength ++ body)) haccept
        (headerPhase_init (fun _ => 0) (fun _ => 0) 0 0) (x := body)
        (by rw [firstCall, ← List.length_pos_iff, List.length_append]; omega) rfl (Nat.le_refl _)
        hfit (show 0 + eventLoopNum < 2 ^ 63 by decide)).2 rfl
    exact ⟨d, lb', server', httpReq', hcall, hc⟩
  · refine ⟨_, _, parsedRequest_post contentLength body, ?_, ?_⟩
    · simp only [List.length_append]
      omega
    · simpa only [List.length_append] using hfit

theorem relay_receives_three :
    ∃ d lb' server' httpReq', clientCall (postEnvironment ['3']) 1 freshRequest
        (firstCall (postHeader ['3'] ++ [97, 61, 98])) = some (.dispatch d lb' server' httpReq') ∧
      ∀ (b : Build) (fresh : Mem UInt8) (relay : TcpRelay),
        relay.maxBufferSize = pDefaultPackageSize → relay.rawBuf1Size ≤ pDefaultPackageSize →
        Receives b fresh relay d.bytes := by
  obtain ⟨⟨d, lb', server', httpReq', hcall, hc⟩, parsed, value, hparse, hblock, hbuffer⟩ :=
    clientCall_post ['3'] [97, 61, 98] (by decide) (by decide) (by decide) (by decide)
  refine ⟨d, lb', server', httpReq', hcall, ?_⟩
  exact (relay_receives_iff _ _ _ _ _ _ _ _ _ _ _ d hcall (by rw [firstCall, hparse]; exact hblock)
    (by rw [firstCall, hparse]; exact hbuffer) (by decide) (by decide) (by rw [hc]; decide)).mpr
    (by rw [hc]; decide)

/-- A body of 4085 bytes is dispatched, and a fresh relay is full before its frame is
complete. -/
theorem relay_full_4085 :
    ∃ d lb' server' httpReq', clientCall (postEnvironment ['4', '0', '8', '5']) 1 freshRequest
        (firstCall (postHeader ['4', '0', '8', '5'] ++ List.replicate 4085 97)) =
          some (.dispatch d lb' server' httpReq') ∧
      ¬ Receives .plain (fun _ => 0)
        (initTcpRelay pDefaultPackageSize (fun _ => 0) (fun _ => 0)) d.bytes := by
  obtain ⟨⟨d, lb', server', httpReq', hcall, hc⟩, parsed, value, hparse, hblock, hbuffer⟩ :=
    clientCall_post ['4', '0', '8', '5'] (List.replicate 4085 97) (by decide) (by decide)
      (by rw [List.length_replicate]; decide) (by rw [List.length_replicate]; decide)
  rw [List.length_replicate] at hc
  obtain ⟨hframe, hlen⟩ := lengthPrefixed_dispatch hcall (by rw [firstCall, hparse]; exact hblock)
    (by rw [firstCall, hparse]; exact hbuffer) (by decide) (by decide) (by rw [hc]; decide)
  have hcap : pDefaultPackageSize = 4096 := rfl
  exact ⟨d, lb', server', httpReq', hcall, not_receives_of_gt _ _ _ _ hframe (by omega)⟩

end MeshAgent.Proofs
