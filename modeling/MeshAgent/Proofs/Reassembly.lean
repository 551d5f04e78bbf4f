import MeshAgent.Model.ProviderAgent
import MeshAgent.Proofs.FrameBuffer
import MeshAgent.Proofs.ReplyHandling
import MeshAgent.Proofs.Transcoding

/-!
# Reassembly does not depend on chunking

Each of the three readers takes the complete frames off its buffer and keeps the rest. The
handler of a request stores behind the body while it works, which must not be seen by the
frames that follow.
-/

namespace MeshAgent.Proofs
open MeshAgent.Foundations MeshAgent.Model

/-- The trace shows the header and the payload of the frame. -/
def HandlesFrame (header : Nat) (e : RelayEvent) (f : List UInt8) : Prop :=
  ∃ written, e = .frame (f.take header) (f.drop header) written

/-- The id that a frame carries in the bytes 4 to 11. -/
def frameId (f : List UInt8) : Int := signed 64 (leValue ((f.drop 4).take 8))

lemma frameId_frame (c : Int) {reqId : Int} (body : List UInt8) (hl : -2 ^ 63 ≤ reqId)
    (hr : reqId < 2 ^ 63) :
    frameId (intToFourChar c ++ (longTo8bytes reqId ++ body)) = reqId := by
  rw [frameId, List.drop_left' (length_intToFourChar _), List.take_left' (length_longTo8bytes _),
    longTo8bytes]
  exact signed_leValue_leBytes (k := 63) (by norm_num) hl hr

lemma bytes8ToLong_frame {raw : Mem UInt8} {size : Nat} {f x : List UInt8}
    (hf : 12 ≤ f.length) (h : raw.read 0 size = f ++ x) : bytes8ToLong raw 4 = frameId f := by
  have hid : raw.read 4 8 = (f.drop 4).take 8 := read_within (a := 4) h (by omega)
  rw [bytes8ToLong, frameId, hid]

/-- The body of a request frame: fields whose package fits `dubbo_package`. -/
structure RequestPayload (payload : List UInt8) : Prop where
  fields : ∃ fs : List FormField, fs ≠ [] ∧ fs.length ≤ 15 ∧ payload = formBody fs ∧
    16 + (dubboBody fs).length ≤ pDefaultPackageSize

lemma lengthAt_zero : 0 + 4 ≤ 12 := by decide

/-- The request frames, with a 12-byte header and the length at 0. -/
def requestCode : FrameCode UInt8 :=
  lengthCode 12 0 lengthAt_zero (fun f => f.length ≤ 4080 ∧ RequestPayload (f.drop 12))

def content1 (relay : TcpRelay) : List UInt8 := relay.rawBuf1.read 0 relay.rawBuf1Size

/-- Fields of a relay that no read changes. -/
def RelayFits1 (relay : TcpRelay) : Prop :=
  relay.maxBufferSize = pDefaultPackageSize ∧ relay.rawBuf1Size ≤ pDefaultPackageSize

lemma pTranscode_frame {b : Build} (hb : b ≠ .bmi) (fresh : Mem UInt8) {relay : TcpRelay}
    (hrelay : RelayFits1 relay) {f x : List UInt8} (hpre : LengthPrefixed 12 0 f)
    (hshort : f.length ≤ 4080) {fs : List FormField} (hne : fs ≠ []) (hcount : fs.length ≤ 15)
    (hbody : f.drop 12 = formBody fs) (hfits : 16 + (dubboBody fs).length ≤ pDefaultPackageSize)
    (hc : content1 relay = f ++ x) :
    ∃ package, Renders (KnownValid fs) package (dubboPackage fs (frameId f)) ∧
      pTranscode b fresh relay ((f.length : Int) - (12 : Nat)) = some (relay, package) := by
  have hle := hpre.le_length
  have hpayload := (read_header_payload hpre hc).2
  have hlen : (f.length : Int) - (12 : Nat) = (formBody fs).length := by
    rw [← hbody, List.length_drop]
    omega
  have hfs : (formBody fs).length + 12 = f.length := by omega
  rw [hlen, Int.toNat_natCast, hbody, Nat.cast_ofNat] at hpayload
  obtain ⟨pkg, hpkg, hgen⟩ := generateResInPlace_eq b fs hne hcount (by omega) hpayload
    fresh (frameId f)
  have hshortLen : toShort ((formBody fs).length : Int) = (formBody fs).length :=
    toShort_eq_self (by omega) (by omega)
  have hcap : pDefaultPackageSize = 4096 := rfl
  have hsize : pkg.length ≤ pDefaultPackageSize := by
    rw [hpkg.length_eq, length_dubboPackage]
    exact hfits
  have hwritten : unsigned 32 (pkg.length : Int) = pkg.length :=
    unsigned_eq_toNat (by omega) (by omega)
  have hmax := hrelay.1
  rw [afterSplit_of_ne_bmi hb] at hgen
  refine ⟨pkg, hpkg, ?_⟩
  rw [hlen, pTranscode]
  simp only [hshortLen, bytes8ToLong_frame hle hc]
  rw [if_neg (by omega)]
  simp only [hgen, Option.bind_eq_bind, Option.bind_some]
  rw [if_neg (by omega), hwritten, Mem.read_write_self _ _ _ _ rfl]

lemma pReadConnectionDataHttpReqPass_frame {b : Build} {fresh : Mem UInt8} {relay : TcpRelay}
    (hrelay : RelayFits1 relay) {f x : List UInt8} (hf : LengthPrefixed 12 0 f)
    (hc : content1 relay = f ++ x) {package : List UInt8}
    (htrans : pTranscode b fresh relay ((f.length : Int) - (12 : Nat)) = some (relay, package)) :
    ∃ next, pReadConnectionDataHttpReqPass b fresh relay =
        .emit (.frame (f.take 12) (f.drop 12) (some package)) (some next) ∧
      RelayFits1 next ∧ content1 next = x := by
  have hcap : pDefaultPackageSize = 4096 := rfl
  have hsize := hrelay.2
  obtain ⟨hheader, hpayload⟩ := read_header_payload hf hc
  obtain ⟨hrest, hcontent⟩ := takeOff_frame (by omega) hc
  have hbuffered := bufferedFrame_of_frame hf (by decide) (by omega) hc
  have hlen : relay.rawBuf1Size = f.length + x.length := Mem.length_of_read_append hc
  refine ⟨{ relay with
      rawBuf1 := (takeOff relay.rawBuf1 relay.rawBuf1Size f.length).1
      rawBuf1Size := (takeOff relay.rawBuf1 relay.rawBuf1Size f.length).2 },
    ?_, ⟨hrelay.1, ?_⟩, ?_⟩
  · rw [pReadConnectionDataHttpReqPass, hbuffered]
    simp only [htrans]
    rw [← hheader, ← hpayload]
    rfl
  · simp only [hrest]
    omega
  · rw [content1]
    simp only [hrest]
    exact hcontent

lemma pReadConnectionDataHttpReqPass_readsFrames {b : Build} (hb : b ≠ .bmi)
    (fresh : Mem UInt8) :
    ReadsFrames requestCode content1 RelayFits1 (HandlesFrame 12)
      (pReadConnectionDataHttpReqPass b fresh) := by
  have hcap : pDefaultPackageSize = 4096 := rfl
  constructor
  · intro relay hrelay hnone
    have hsize := hrelay.2
    rw [pReadConnectionDataHttpReqPass,
      bufferedFrame_of_next_eq_none (by decide) (by omega) hnone]
  · intro relay f x hrelay hf hc
    obtain ⟨hpre, hshort, ⟨fs, hne, hcount, hbody, hfits⟩⟩ := hf
    obtain ⟨package, -, htrans⟩ :=
      pTranscode_frame hb fresh hrelay hpre hshort hne hcount hbody hfits hc
    obtain ⟨next, hpass, hnext, hcontent⟩ :=
      pReadConnectionDataHttpReqPass_frame hrelay hpre hc htrans
    exact ⟨_, next, hpass, hnext, hcontent, ⟨_, rfl⟩⟩

theorem read1_reassembles_of {b : Build} {fresh : Mem UInt8} {code : FrameCode UInt8}
    {Logs : RelayEvent → List UInt8 → Prop}
    (hpass : ReadsFrames code content1 RelayFits1 Logs (pReadConnectionDataHttpReqPass b fresh)) :
    Reassembles code content1 pAllocBuffer1 pDefaultPackageSize RelayFits1 Logs
      (TcpRelay.read1 b fresh) := by
  refine hpass.reassembles
    (fun relay chunk => { relay with
      rawBuf1 := relay.rawBuf1.write relay.rawBuf1Size chunk
      rawBuf1Size := relay.rawBuf1Size + chunk.length }) ?_ ?_ ?_
  · intro relay hrelay _
    rw [pAllocBuffer1, content1, Mem.length_read, hrelay.1]
    have := hrelay.2
    omega
  · intro relay chunk hrelay hlen
    rw [pAllocBuffer1, hrelay.1] at hlen
    have := hrelay.2
    exact ⟨⟨hrelay.1, by simp only; omega⟩, read_store _ _ _⟩
  · intro relay chunk hrelay hne
    have hpos : 0 < chunk.length := List.length_pos_iff.mpr hne
    rw [TcpRelay.read1, pReadConnectionDataHttpReq, if_pos (by omega), List.length_append,
      content1, Mem.length_read]
    rfl

theorem read1_reassembles {b : Build} (hb : b ≠ .bmi) (fresh : Mem UInt8) :
    Reassembles requestCode content1 pAllocBuffer1 pDefaultPackageSize RelayFits1
      (HandlesFrame 12) (TcpRelay.read1 b fresh) :=
  read1_reassembles_of (pReadConnectionDataHttpReqPass_readsFrames hb fresh)

/-- The Dubbo frames, with a 16-byte header and the length at 12. -/
def resultCode : FrameCode UInt8 :=
  lengthCode 16 12 (by decide) (fun f => 16 + 3 ≤ f.length ∧ f.length ≤ 16 + 4048)

def content2 (relay : TcpRelay) : List UInt8 := relay.rawBuf2.read 0 relay.rawBuf2Size

def RelayFits2 (relay : TcpRelay) : Prop :=
  relay.maxBufferSize = pDefaultPackageSize ∧ relay.rawBuf2Size ≤ pDefaultPackageSize

lemma pAnswer_returns (fresh : Mem UInt8) (relay : TcpRelay) (length : Int) (hl : 3 ≤ length)
    (hr : length ≤ 4048) : ∃ answer, pAnswer fresh relay length = some answer := by
  have hcap : pDefaultPackageSize = 4096 := rfl
  have htemplate : responseTemplateLen = 39 := rfl
  rw [pAnswer]
  simp only
  rw [if_neg (by omega)]
  exact ⟨_, rfl⟩

lemma pOnReadResultsPass_frame {fresh : Mem UInt8} {relay : TcpRelay} (hrelay : RelayFits2 relay)
    {f x : List UInt8} (hf : LengthPrefixed 16 12 f) (hc : content2 relay = f ++ x)
    {answer : List UInt8}
    (hanswer : pAnswer fresh relay ((f.length : Int) - (16 : Nat)) = some answer) :
    ∃ next, pOnReadResultsPass fresh relay =
        .emit (.frame (f.take 16) (f.drop 16)
          (if charVal (relay.rawBuf2 3) = 20 then some answer else none)) (some next) ∧
      RelayFits2 next ∧ content2 next = x := by
  have hcap : pDefaultPackageSize = 4096 := rfl
  have hsize := hrelay.2
  obtain ⟨hheader, hpayload⟩ := read_header_payload hf hc
  obtain ⟨hrest, hcontent⟩ := takeOff_frame (by omega) hc
  have hbuffered := bufferedFrame_of_frame hf (by decide) (by omega) hc
  have hlen : relay.rawBuf2Size = f.length + x.length := Mem.length_of_read_append hc
  refine ⟨{ relay with
      rawBuf2 := (takeOff relay.rawBuf2 relay.rawBuf2Size f.length).1
      rawBuf2Size := (takeOff relay.rawBuf2 relay.rawBuf2Size f.length).2 },
    ?_, ⟨hrelay.1, ?_⟩, ?_⟩
  · rw [pOnReadResultsPass, hbuffered]
    simp only [hanswer]
    rw [← hheader, ← hpayload]
    split <;> rfl
  · simp only [hrest]
    omega
  · rw [content2]
    simp only [hrest]
    exact hcontent

lemma pOnReadResultsPass_ret (fresh : Mem UInt8) {relay : TcpRelay} (hrelay : RelayFits2 relay)
    {P : List UInt8 → Prop} {ho : 12 + 4 ≤ 16}
    (hnone : (lengthCode 16 12 ho P).next (content2 relay) = none) :
    pOnReadResultsPass fresh relay = .ret := by
  have hcap : pDefaultPackageSize = 4096 := rfl
  have hsize := hrelay.2
  rw [pOnReadResultsPass, bufferedFrame_of_next_eq_none (by decide) (by omega) hnone]

lemma pOnReadResultsPass_readsFrames (fresh : Mem UInt8) :
    ReadsFrames resultCode content2 RelayFits2 (HandlesFrame 16) (pOnReadResultsPass fresh) := by
  constructor
  · intro relay hrelay hnone
    exact pOnReadResultsPass_ret fresh hrelay hnone
  · intro relay f x hrelay hf hc
    obtain ⟨hpre, hge, hle⟩ := hf
    obtain ⟨answer, hanswer⟩ := pAnswer_returns fresh relay
      ((f.length : Int) - (16 : Nat)) (by omega) (by omega)
    obtain ⟨next, hpass, hnext, hcontent⟩ := pOnReadResultsPass_frame hrelay hpre hc hanswer
    exact ⟨_, next, hpass, hnext, hcontent, ⟨_, rfl⟩⟩

theorem read2_reassembles_of {fresh : Mem UInt8} {code : FrameCode UInt8}
    {Logs : RelayEvent → List UInt8 → Prop}
    (hpass : ReadsFrames code content2 RelayFits2 Logs (pOnReadResultsPass fresh)) :
    Reassembles code content2 pAllocBuffer2 pDefaultPackageSize RelayFits2 Logs
      (TcpRelay.read2 fresh) := by
  refine hpass.reassembles
    (fun relay chunk => { relay with
      rawBuf2 := relay.rawBuf2.write relay.rawBuf2Size chunk
      rawBuf2Size := relay.rawBuf2Size + chunk.length }) ?_ ?_ ?_
  · intro relay hrelay _
    rw [pAllocBuffer2, content2, Mem.length_read, hrelay.1]
    have := hrelay.2
    omega
  · intro relay chunk hrelay hlen
    rw [pAllocBuffer2, hrelay.1] at hlen
    have := hrelay.2
    exact ⟨⟨hrelay.1, by simp only; omega⟩, read_store _ _ _⟩
  · intro relay chunk hrelay hne
    have hpos : 0 < chunk.length := List.length_pos_iff.mpr hne
    rw [TcpRelay.read2, pOnReadResults, if_pos (by omega), List.length_append,
      content2, Mem.length_read]
    rfl

/-- The reply frames, with a 12-byte header and the length at 0. -/
def replyCode : FrameCode UInt8 :=
  lengthCode 12 0 lengthAt_zero (fun f => f.length ≤ 4096 ∧ 0 ≤ frameId f)

/-- The reply frames whose ids are among `ids`. -/
def replyCodeOf (ids : Int → Prop) : FrameCode UInt8 :=
  lengthCode 12 0 lengthAt_zero (fun f => f.length ≤ 4096 ∧ 0 ≤ frameId f ∧ ids (frameId f))

/-- The trace shows the header, the payload and the id of the frame. -/
def HandlesReply (e : Reply) (f : List UInt8) : Prop :=
  ∃ client, e = ⟨f.take 12, f.drop 12, frameId f, client⟩

/-- What the record of an endpoint has buffered. -/
def replyContent (which : Nat) (s : ReplyLoop) : List UInt8 :=
  let server := s.evLoop.server.endpointServers which
  server.rawArray.read 0 server.sizeOfRawArray

/-- The length that libuv is offered for the stream of an endpoint. -/
def replyOffered (which : Nat) (s : ReplyLoop) : Nat :=
  allocBufferToAgent (s.evLoop.server.endpointServers which)

/-- The buffer of the endpoint has its size, and the slots of `ids` are live. -/
structure ReplyFits (which : Nat) (ids : Int → Prop) (s : ReplyLoop) : Prop where
  max : (s.evLoop.server.endpointServers which).rawArrayMaxLength = defaultResponseSize
  size : (s.evLoop.server.endpointServers which).sizeOfRawArray ≤ defaultResponseSize
  live : ∀ reqId, ids reqId → LiveSlot s.evLoop reqId

lemma endpointServers_setEndpoint (evLoop : EventLoop) (which : Nat) (server : EndpointServer) :
    (evLoop.setEndpoint which server).server.endpointServers which = server := by
  simp [EventLoop.setEndpoint]

lemma setEndpoint_setEndpoint (evLoop : EventLoop) (which : Nat) (server server' : EndpointServer) :
    (evLoop.setEndpoint which server).setEndpoint which server' =
      evLoop.setEndpoint which server' := by
  simp [EventLoop.setEndpoint]

lemma noDangling_setEndpoint {evLoop : EventLoop} (h : NoDangling evLoop) (which : Nat)
    (server : EndpointServer) : NoDangling (evLoop.setEndpoint which server) := h

lemma cReadFromProvideAgentsPass_frame {which : Nat} {s : ReplyLoop} {server : EndpointServer}
    {lengthBody lastLength reqId : Int} {header payload : List UInt8} {lb : LoadBalancer}
    {evLoop : EventLoop} (hserver : s.evLoop.server.endpointServers which = server)
    (hbuffered : bufferedFrame 12 0 server.rawArray server.sizeOfRawArray =
      some (lengthBody, lastLength))
    (hid : bytes8ToLong server.rawArray 4 = reqId)
    (hheader : server.rawArray.read 0 12 = header)
    (hpayload : server.rawArray.read 12 lengthBody.toNat = payload)
    (hreply : handleReply s.lb s.evLoop which reqId lengthBody (s.clock 0) payload =
      some (lb, evLoop)) :
    cReadFromProvideAgentsPass which s =
      .emit ⟨header, payload, reqId, replyClient s.evLoop reqId⟩
        (some ⟨lb, evLoop.setEndpoint which { server with
          rawArray := (takeOff server.rawArray server.sizeOfRawArray lastLength).1
          sizeOfRawArray := (takeOff server.rawArray server.sizeOfRawArray lastLength).2 },
          fun k => s.clock (k + 1)⟩) := by
  subst hserver hid hheader hpayload
  rw [cReadFromProvideAgentsPass]
  simp only [hbuffered, hreply]

lemma cReadFromProvideAgentsPass_readsFrames (which : Nat) (ids : Int → Prop) :
    ReadsFrames (replyCodeOf ids) (replyContent which) (ReplyFits which ids) HandlesReply
      (cReadFromProvideAgentsPass which) := by
  have hcap : defaultResponseSize = 4096 := rfl
  constructor
  · intro s hs hnone
    have hsize := hs.size
    have hbuffered := bufferedFrame_of_next_eq_none (by decide) (by omega) hnone
    rw [cReadFromProvideAgentsPass]
    simp only [hbuffered]
  · intro s f x hs hf hc
    have hsize := hs.size
    obtain ⟨hpre, hle, hid, hmem⟩ := hf
    have hge := hpre.le_length
    have hpackage : defaultPackageSize = 4096 := rfl
    obtain ⟨hheader, hpayload⟩ := read_header_payload hpre hc
    obtain ⟨hrest, hcontent⟩ := takeOff_frame (by omega) hc
    have hbuffered := bufferedFrame_of_frame hpre (by decide) (by omega) hc
    have hreqId := bytes8ToLong_frame hge hc
    have hl : 0 ≤ (f.length : Int) - (12 : Nat) := by omega
    have hr : (f.length : Int) - (12 : Nat) ≤ defaultPackageSize := by omega
    obtain ⟨⟨lb, evLoop⟩, hreply⟩ :=
      handleReply_returns
        (hs.live _ hmem) hid hl hr
    have hpass := cReadFromProvideAgentsPass_frame rfl hbuffered hreqId hheader hpayload hreply
    refine ⟨_, _, hpass, ⟨?_, ?_, ?_⟩, ?_, ⟨_, rfl⟩⟩
    · rw [endpointServers_setEndpoint]
      exact hs.max
    · rw [endpointServers_setEndpoint]
      simp only [hrest]
      have hlen : (s.evLoop.server.endpointServers which).sizeOfRawArray =
          f.length + x.length := Mem.length_of_read_append hc
      omega
    · exact fun reqId hreqId => liveSlot_handleReply hreply (hs.live reqId hreqId)
    · rw [replyContent]
      simp only [endpointServers_setEndpoint, hrest]
      exact hcontent

theorem read_reassembles (which : Nat) (ids : Int → Prop) :
    Reassembles (replyCodeOf ids) (replyContent which) (replyOffered which) defaultResponseSize
      (ReplyFits which ids) HandlesReply (ReplyLoop.read which) := by
  refine (cReadFromProvideAgentsPass_readsFrames which ids).reassembles
    (fun s chunk =>
      let server := s.evLoop.server.endpointServers which
      { s with evLoop := s.evLoop.setEndpoint which { server with
          rawArray := server.rawArray.write server.sizeOfRawArray chunk
          sizeOfRawArray := server.sizeOfRawArray + chunk.length } }) ?_ ?_ ?_
  · intro s hs _
    rw [replyOffered, allocBufferToAgent, replyContent, Mem.length_read, hs.max]
    have := hs.size
    omega
  · intro s chunk hs hlen
    rw [replyOffered, allocBufferToAgent, hs.max] at hlen
    have hsize := hs.size
    refine ⟨⟨?_, ?_, hs.live⟩, ?_⟩
    · simp only [endpointServers_setEndpoint]
      exact hs.max
    · simp only [endpointServers_setEndpoint]
      omega
    · rw [replyContent]
      simp only [endpointServers_setEndpoint]
      exact read_store _ _ _
  · intro s chunk hs hne
    have hpos : 0 < chunk.length := List.length_pos_iff.mpr hne
    rw [ReplyLoop.read]
    simp only [cReadFromProvideAgents, endpointServers_setEndpoint, EndpointServer.store]
    rw [if_pos (by omega)]
    simp only [List.length_append, replyContent, Mem.length_read, setEndpoint_setEndpoint,
      Int.toNat_natCast]

/-- From an empty buffer, the replies for live slots are handled however they are cut. -/
theorem read_chunkIndependent (which : Nat) {s : ReplyLoop} {fs : List (List UInt8)}
    (hmax : (s.evLoop.server.endpointServers which).rawArrayMaxLength = defaultResponseSize)
    (hempty : (s.evLoop.server.endpointServers which).sizeOfRawArray = 0)
    (hfs : ∀ f ∈ fs, replyCode.IsFrame f ∧ LiveSlot s.evLoop (frameId f)) :
    ChunkIndependent (replyOffered which)
      (fun s => (s.evLoop.server.endpointServers which).sizeOfRawArray) HandlesReply
      (ReplyLoop.read which) s fs := by
  refine (read_reassembles which (LiveSlot s.evLoop)).chunkIndependent
    (fun s => by rw [replyContent, Mem.length_read]) (by decide) ?_
    ⟨hmax, by omega, fun _ hlive => hlive⟩ hempty
  intro f hf
  obtain ⟨⟨hpre, hle, hid⟩, hlive⟩ := hfs f hf
  exact ⟨⟨hpre, hle, hid, hlive⟩, hle⟩

/-! ### The three readers -/

/-- On the builds that leave the buffer as it was, each reader handles exactly the frames
that were sent, in order and each once, however the stream is cut into reads, and is never
offered an empty buffer. A reply must not be for a client whose record has been freed. -/
theorem readers_chunkIndependent (b : Build) (hb : b ≠ .bmi) (fresh : Mem UInt8) :
    (∀ (relay : TcpRelay) (fs : List (List UInt8)), relay.maxBufferSize = pDefaultPackageSize →
      relay.rawBuf1Size = 0 → (∀ f ∈ fs, requestCode.IsFrame f) →
      ChunkIndependent pAllocBuffer1 TcpRelay.rawBuf1Size (HandlesFrame 12)
        (TcpRelay.read1 b fresh) relay fs) ∧
    (∀ (relay : TcpRelay) (fs : List (List UInt8)), relay.maxBufferSize = pDefaultPackageSize →
      relay.rawBuf2Size = 0 → (∀ f ∈ fs, resultCode.IsFrame f) →
      ChunkIndependent pAllocBuffer2 TcpRelay.rawBuf2Size (HandlesFrame 16)
        (TcpRelay.read2 fresh) relay fs) ∧
    (∀ (which : Nat) (s : ReplyLoop) (fs : List (List UInt8)),
      (s.evLoop.server.endpointServers which).rawArrayMaxLength = defaultResponseSize →
      (s.evLoop.server.endpointServers which).sizeOfRawArray = 0 →
      (∀ f ∈ fs, replyCode.IsFrame f ∧ LiveSlot s.evLoop (frameId f)) →
      ChunkIndependent (replyOffered which)
        (fun s => (s.evLoop.server.endpointServers which).sizeOfRawArray) HandlesReply
        (ReplyLoop.read which) s fs) := by
  refine ⟨?_, ?_, ?_⟩
  · intro relay fs hmax hempty hfs
    refine (read1_reassembles hb fresh).chunkIndependent
      (fun relay => by rw [content1, Mem.length_read]) (by decide) ?_ ⟨hmax, by omega⟩ hempty
    intro f hf
    have hle := (hfs f hf).2.1
    exact ⟨hfs f hf, Nat.le_trans hle (by decide)⟩
  · intro relay fs hmax hempty hfs
    refine (read2_reassembles_of (pOnReadResultsPass_readsFrames fresh)).chunkIndependent
      (fun relay => by rw [content2, Mem.length_read]) (by decide) ?_ ⟨hmax, by omega⟩ hempty
    intro f hf
    have hle := (hfs f hf).2.2
    exact ⟨hfs f hf, Nat.le_trans hle (by decide)⟩
  · intro which s fs hmax hempty hfs
    exact read_chunkIndependent which hmax hempty hfs

/-- `a=b` with the id 7. -/
def requestFrame : List UInt8 := [0, 0, 0, 3, 7, 0, 0, 0, 0, 0, 0, 0, 97, 61, 98]

/-- A status-20 answer of four bytes to the id 7. -/
def resultFrame : List UInt8 :=
  [0xda, 0xbb, 6, 20, 7, 0, 0, 0, 0, 0, 0, 0, 0, 0, 0, 4, 49, 10, 52, 10]

theorem readers_chunkIndependent_plain :
    ChunkIndependent pAllocBuffer1 TcpRelay.rawBuf1Size (HandlesFrame 12)
      (TcpRelay.read1 .plain (fun _ => 0))
      (initTcpRelay pDefaultPackageSize (fun _ => 0) (fun _ => 0)) [requestFrame, requestFrame] ∧
    ChunkIndependent pAllocBuffer2 TcpRelay.rawBuf2Size (HandlesFrame 16)
      (TcpRelay.read2 (fun _ => 0))
      (initTcpRelay pDefaultPackageSize (fun _ => 0) (fun _ => 0)) [resultFrame] ∧
    ChunkIndependent (replyOffered 0)
      (fun s => (s.evLoop.server.endpointServers 0).sizeOfRawArray) HandlesReply
      (ReplyLoop.read 0)
      ⟨initLoadBalancer 1, ⟨initTcpServer 0 (fun _ _ => 0), fun _ => none⟩, fun _ => 0⟩
      [requestFrame] := by
  have hreq : requestCode.IsFrame requestFrame := by
    refine ⟨⟨by decide, by decide⟩, by decide, ⟨[⟨[97], [98], by decide, by decide, by decide⟩],
      by decide, by decide, rfl, by decide⟩⟩
  obtain ⟨h1, h2, h3⟩ := readers_chunkIndependent .plain (by decide) (fun _ => 0)
  refine ⟨h1 _ _ rfl rfl ?_, h2 _ _ rfl rfl ?_, h3 _ _ _ rfl rfl ?_⟩
  · intro f hf
    simp only [List.mem_cons, List.not_mem_nil, or_false, or_self] at hf
    exact hf ▸ hreq
  · intro f hf
    simp only [List.mem_cons, List.not_mem_nil, or_false] at hf
    rw [hf]
    exact ⟨⟨by decide, by decide⟩, by decide, by decide⟩
  · intro f hf
    simp only [List.mem_cons, List.not_mem_nil, or_false] at hf
    rw [hf]
    refine ⟨⟨⟨by decide, by decide⟩, by decide, by decide⟩, ?_⟩
    intro client hclient
    exact absurd hclient (by simp [replyClient, initTcpServer])

end MeshAgent.Proofs
