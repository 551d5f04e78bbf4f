import MeshAgent.Proofs.RelayAnswers
import MeshAgent.Proofs.RelayCapacity

/-!
# Ids and lengths on the way to Dubbo and back

A request id is written by one program and read by the other at each of the hops.
-/

namespace MeshAgent.Proofs
open MeshAgent.Foundations MeshAgent.Model

/-- Wherever the frame lies, `four_char_to_int` reads the number of bytes behind its header,
and `bytes8_to_long` reads the id. -/
structure CarriesId (header o : Nat) (f : List UInt8) (reqId : Int) : Prop where
  length : ∀ (m : Mem UInt8) (a : Int), m.read a f.length = f →
    fourCharToInt m (a + (o : Int)) = (f.length : Int) - (header : Int)
  reqId : ∀ (m : Mem UInt8) (a : Int), m.read a f.length = f → bytes8ToLong m (a + 4) = reqId

lemma carriesId_of {header o : Nat} {f : List UInt8} (ho : o + 4 ≤ header) (hheader : 12 ≤ header)
    (hf : LengthPrefixed header o f) : CarriesId header o f (frameId f) := by
  have hle := hf.le_length
  constructor
  · intro m a hm
    rw [fourCharToInt_eq_beInt, Mem.read_part hm (by omega), ← hf.field]
    rfl
  · intro m a hm
    rw [bytes8ToLong, frameId, ← Mem.read_part hm (show 4 + 8 ≤ f.length by omega)]
    rfl

section

variable {b : Build} {reqId : Int} {fs : List FormField}

/-- The frame that a body is sent in. -/
structure IsRequestFrame (reqId : Int) (body f : List UInt8) : Prop where
  prefixed : LengthPrefixed 12 0 f
  frameId : frameId f = reqId
  body : f.drop 12 = body

lemma isRequestFrame_frameBytes {raw : Mem UInt8} {h : Int} {body : List UInt8}
    (hl : -2 ^ 63 ≤ reqId) (hr : reqId < 2 ^ 63) (hsmall : body.length ≤ 4068)
    (hraw : raw.read h body.length = body) :
    IsRequestFrame reqId body (frameBytes raw h body.length reqId) := by
  rw [frameBytes_of_nonneg _ _ _ (by omega) (by omega), Int.toNat_natCast, hraw, List.append_assoc]
  constructor
  · exact lengthPrefixed_frame (length_longTo8bytes _) rfl (by omega)
  · exact frameId_frame _ _ hl hr
  · rw [← List.append_assoc, List.drop_left']
    rw [List.length_append, length_intToFourChar, length_longTo8bytes]

lemma dubboPackage_shape (fs : List FormField) (reqId : Int) :
    dubboPackage fs reqId = [0xda, 0xbb, 0xc6, 0x00] ++ (leBytes 8 reqId ++
      ((leBytes 4 (dubboBody fs).length).reverse ++ dubboBody fs)) := by
  rw [dubboPackage, dubboHeader, List.append_assoc, List.append_assoc]

lemma frameId_dubboPackage (fs : List FormField) (hl : -2 ^ 63 ≤ reqId) (hr : reqId < 2 ^ 63) :
    frameId (dubboPackage fs reqId) = reqId := by
  rw [frameId, dubboPackage_shape,
    List.drop_left' (show ([0xda, 0xbb, 0xc6, 0x00] : List UInt8).length = 4 from rfl),
    List.take_left' (length_leBytes 8 reqId)]
  exact signed_leValue_leBytes (k := 63) (by norm_num) hl hr

lemma lengthPrefixed_dubboPackage (fs : List FormField) (reqId : Int)
    (hfits : 16 + (dubboBody fs).length ≤ pDefaultPackageSize) :
    LengthPrefixed 16 12 (dubboPackage fs reqId) := by
  have hcap : pDefaultPackageSize = 4096 := rfl
  have hlen := length_dubboPackage fs reqId
  have hfield : lengthField 12 (dubboPackage fs reqId) = (dubboBody fs).length := by
    rw [lengthField, dubboPackage_shape, ← List.append_assoc, List.drop_left' (by simp),
      List.take_left' (by simp), beInt, List.reverse_reverse]
    exact signed_leValue_leBytes (k := 31) (by norm_num) (by omega) (by omega)
  constructor
  · omega
  · rw [hfield, hlen]
    push_cast
    omega

/-- The way back of a package: any answer with status 20 that echoes the 8 bytes. -/
def ReturnsId (reqId : Int) (package : List UInt8) : Prop :=
  ∀ f, DubboResponse f → status f = 20 → (f.drop 4).take 8 = (package.drop 4).take 8 →
    ∀ (fresh : Mem UInt8) (relay : TcpRelay) (x : List UInt8), RelayFits2 relay →
      content2 relay = f ++ x →
      ∃ (header payload reply : List UInt8) (next : TcpRelay),
        pOnReadResultsPass fresh relay =
          .emit (.frame header payload (some reply)) (some next) ∧
        CarriesId 12 0 reply reqId ∧
        ∀ (which : Nat) (s : ReplyLoop) (x : List UInt8),
          (s.evLoop.server.endpointServers which).sizeOfRawArray ≤ defaultResponseSize →
          replyContent which s = reply ++ x →
          ∃ (r : Reply) (next : Option ReplyLoop),
            cReadFromProvideAgentsPass which s = .emit r next ∧ r.reqId = reqId

/-- The way of a request frame to Dubbo and back. -/
structure SurvivesHops (b : Build) (reqId : Int) (frame : List UInt8) : Prop where
  consumer : CarriesId 12 0 frame reqId
  provider : ∀ (fresh : Mem UInt8) (relay : TcpRelay) (x : List UInt8), RelayFits1 relay →
    content1 relay = frame ++ x →
    bytes8ToLong relay.rawBuf1 4 = reqId ∧
    ∃ (header payload package : List UInt8) (next : TcpRelay),
      pReadConnectionDataHttpReqPass b fresh relay =
        .emit (.frame header payload (some package)) (some next) ∧
      CarriesId 16 12 package reqId ∧ ReturnsId reqId package

lemma reqId_of_replyFrame {which : Nat} {s : ReplyLoop} {f x : List UInt8}
    (hf : LengthPrefixed 12 0 f)
    (hsize : (s.evLoop.server.endpointServers which).sizeOfRawArray ≤ defaultResponseSize)
    (hc : replyContent which s = f ++ x) :
    ∃ r next, cReadFromProvideAgentsPass which s = .emit r next ∧ r.reqId = frameId f := by
  have hcap : defaultResponseSize = 4096 := rfl
  have hbuffered := bufferedFrame_of_frame hf (by decide) (by omega) hc
  have hid := bytes8ToLong_frame hf.le_length hc
  unfold cReadFromProvideAgentsPass
  simp only [hbuffered, hid]
  split
  · exact ⟨_, _, rfl, rfl⟩
  · exact ⟨_, _, rfl, rfl⟩

lemma returnsId_dubboPackage (fs : List FormField) (hl : -2 ^ 63 ≤ reqId) (hr : reqId < 2 ^ 63) :
    ReturnsId reqId (dubboPackage fs reqId) := by
  intro f hf hstatus hecho fresh relay x hrelay hc
  have hge := hf.le_length
  obtain ⟨hpre, hbytes⟩ := isReplyTo_answerFrame hf.le_length hf.length_le_block
  have hreqId : frameId (answerFrame f) = reqId := by
    rw [frameId, hbytes, hecho]
    exact frameId_dubboPackage fs hl hr
  obtain ⟨next, hpass, -, -⟩ := pOnReadResultsPass_frame hrelay hf.prefixed hc
    (pAnswer_eq fresh hf.le_length hf.length_le_block hc)
  rw [charVal_status hge hc, if_pos hstatus] at hpass
  refine ⟨_, _, answerFrame f, next, hpass, ?_, ?_⟩
  · have h := carriesId_of (by decide) (by decide) hpre
    rwa [hreqId] at h
  · intro which s x hsize hcontent
    obtain ⟨r, next, hpass, hr⟩ := reqId_of_replyFrame hpre hsize hcontent
    exact ⟨r, next, hpass, hr.trans hreqId⟩

/-- A form body as the relay expects it. -/
structure FormRequest (fs : List FormField) : Prop where
  ne_nil : fs ≠ []
  count : fs.length ≤ 15
  valid : ∀ f ∈ fs, PercentValid f.value
  length_le : (formBody fs).length ≤ 4068
  fits : 16 + (dubboBody fs).length ≤ pDefaultPackageSize

lemma survivesHops_of_frame (hb : b ≠ .bmi) (hl : -2 ^ 63 ≤ reqId) (hr : reqId < 2 ^ 63)
    (hfs : FormRequest fs) {f : List UInt8} (hf : IsRequestFrame reqId (formBody fs) f) :
    SurvivesHops b reqId f := by
  have hlen : f.length = 12 + (formBody fs).length := by
    have hle := hf.prefixed.le_length
    rw [← hf.body, List.length_drop]
    omega
  have hsmall := hfs.length_le
  constructor
  · have h := carriesId_of (by decide) (by decide) hf.prefixed
    rwa [hf.frameId] at h
  · intro fresh relay x hrelay hc
    obtain ⟨package, hpackage, htrans⟩ := pTranscode_frame hb fresh hrelay hf.prefixed (by omega)
      hfs.ne_nil hfs.count hf.body hfs.fits hc
    obtain ⟨next, hpass, -, -⟩ := pReadConnectionDataHttpReqPass_frame hrelay hf.prefixed hc htrans
    have heq : package = dubboPackage fs reqId := by
      rw [hpackage.eq_of_valid (knownValid_of_forall hfs.valid), hf.frameId]
    refine ⟨(bytes8ToLong_frame hf.prefixed.le_length hc).trans hf.frameId, _, _, package, next,
      hpass, ?_, ?_⟩
    · have h := carriesId_of (by decide) (by decide)
        (lengthPrefixed_dubboPackage fs reqId hfs.fits)
      rw [frameId_dubboPackage fs hl hr] at h
      rwa [heq]
    · rw [heq]
      exact returnsId_dubboPackage fs hl hr

end

/-- On the builds without BMI, the id and the length of every form request are read at each
hop as they were written: by the stores of `c_read_connection_data` for any id, and so by each of
its calls that dispatches that body. -/
theorem requestId_survives (b : Build) (hb : b ≠ .bmi) (reqId : Int) (hl : -2 ^ 63 ≤ reqId)
    (hr : reqId < 2 ^ 63) (fs : List FormField) (hfs : FormRequest fs) :
    (∀ (raw : Mem UInt8) (h : Int), raw.read h (formBody fs).length = formBody fs →
      SurvivesHops b reqId (frameBytes raw h (formBody fs).length reqId)) ∧
    ∀ (env : Environment) (lb lb' : LoadBalancer) (server server' : TcpServer) (me : Nat)
      (httpReq httpReq' : HttpReq) (nread stale now : Int) (d : Dispatch),
      cReadConnectionData env lb server me httpReq nread stale now =
        some (.dispatch d lb' server' httpReq') →
      d.reqId = reqId → d.contentLength = (formBody fs).length →
      httpReq.rawArray.read (parsedRequest env httpReq nread).1.requestLength
        (formBody fs).length = formBody fs →
      SurvivesHops b reqId d.bytes := by
  have hframe : ∀ (raw : Mem UInt8) (h : Int), raw.read h (formBody fs).length = formBody fs →
      SurvivesHops b reqId (frameBytes raw h (formBody fs).length reqId) := fun raw h hraw =>
    survivesHops_of_frame hb hl hr hfs (isRequestFrame_frameBytes hl hr hfs.length_le hraw)
  refine ⟨hframe, ?_⟩
  intro env lb lb' server server' me httpReq httpReq' nread stale now d hcall hid hlength hbody
  obtain ⟨-, -, -, -, rfl, -, -, -⟩ := cReadConnectionData_dispatch hcall
  simp only at hid hlength ⊢
  rw [hid, hlength]
  exact hframe _ _ hbody

/-- The body `a=b` with the least id. -/
theorem requestId_survives_min :
    SurvivesHops .sse42 (-2 ^ 63)
      (frameBytes (Mem.write (fun _ => 0) 40 [97, 61, 98]) 40 (3 : Nat) (-2 ^ 63)) := by
  have hvalid : ∀ f ∈ [(⟨[97], [98], by decide, by decide, by decide⟩ : FormField)],
      PercentValid f.value := by
    intro f hf
    rw [List.mem_singleton.mp hf]
    exact percentValid_of_notMem (by decide)
  exact (requestId_survives .sse42 (by decide) (-2 ^ 63) (by decide) (by decide)
    [⟨[97], [98], by decide, by decide, by decide⟩]
    ⟨by decide, by decide, hvalid, by decide, by decide⟩).1 _ 40
    (Mem.read_write_self _ _ _ _ rfl)

end MeshAgent.Proofs
