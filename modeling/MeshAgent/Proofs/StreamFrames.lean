import MeshAgent.Proofs.ConsumerSteps
import MeshAgent.Proofs.Reassembly

/-!
# What is on its way from a provider agent

As long as a connection ends only when everything is answered, what the agent has buffered
and what it has not read yet are the frames of the answers in transit.
-/

namespace MeshAgent.Proofs
open MeshAgent.Foundations MeshAgent.Model

/-- The requests of a connection whose answers have not been handled. -/
def unanswered (stream : ProviderStream) : List Nat := stream.pending ++ stream.inTransit

/-- A connection ends only when all its requests are answered. -/
def EndsAnswered (loop : WorkLoop) : Event → Prop
  | .providerEnd which => unanswered (loop.streams which) = []
  | _ => True

/-- A connection ends only between two frames: nothing of a frame is left in the buffer. -/
def EndsEmpty (_ : Shared) (loop : WorkLoop) : Event → Prop
  | .providerEnd which => (loop.evLoop.server.endpointServers which).sizeOfRawArray = 0
  | _ => True

/-- A reply frame with this id. -/
def CarriesReply (f : List UInt8) (reqId : Nat) : Prop :=
  replyCode.IsFrame f ∧ frameId f = reqId

/-- What an endpoint's record has buffered. -/
def buffered (server : EndpointServer) : List UInt8 :=
  server.rawArray.read 0 server.sizeOfRawArray

/-- The bytes of the connection are the frames in transit, the first ones of them in the
buffer. -/
structure StreamFrames (server : EndpointServer) (stream : ProviderStream) : Prop where
  max : server.rawArrayMaxLength = defaultResponseSize
  size : server.sizeOfRawArray ≤ defaultResponseSize
  small : ∀ reqId ∈ stream.pending, reqId < 2 ^ 63
  frames : ∃ fs, List.Forall₂ CarriesReply fs stream.inTransit ∧
    buffered server ++ stream.inbound = fs.flatten
  quiet : stream.connection ≠ .established → stream.inTransit = [] ∧ stream.inbound = []

section

variable {server server' : EndpointServer} {stream stream' : ProviderStream}

lemma carriesReply_replyFrame (reqId : Nat) (payload : List UInt8) (hid : reqId < 2 ^ 63)
    (hfits : 12 + payload.length ≤ defaultResponseSize) :
    CarriesReply (replyFrame reqId payload) reqId := by
  have hcap : defaultResponseSize = 4096 := rfl
  have hlen : (replyFrame reqId payload).length = 12 + payload.length := by
    simp only [replyFrame, List.length_append, length_intToFourChar, length_longTo8bytes]
  have hpre : LengthPrefixed 12 0 (replyFrame reqId payload) := by
    rw [replyFrame, List.append_assoc]
    exact lengthPrefixed_frame (length_longTo8bytes _) rfl (by omega)
  have hframeId : frameId (replyFrame reqId payload) = reqId := by
    rw [replyFrame, List.append_assoc]
    exact frameId_frame _ _ (by omega) (by omega)
  exact ⟨⟨hpre, by omega, by rw [hframeId]; omega⟩, hframeId⟩

lemma StreamFrames.eq_nil (h : StreamFrames server stream) (hnone : stream.inTransit = []) :
    buffered server = [] ∧ stream.inbound = [] := by
  obtain ⟨fs, hfs, hbytes⟩ := h.frames
  rw [hnone, List.forall₂_nil_right_iff] at hfs
  rw [hfs, List.flatten_nil, List.append_eq_nil_iff] at hbytes
  exact hbytes

lemma streamFrames_of_nil (hmax : server.rawArrayMaxLength = defaultResponseSize)
    (hsize : server.sizeOfRawArray ≤ defaultResponseSize) (hempty : buffered server = [])
    (hsmall : ∀ reqId ∈ stream.pending, reqId < 2 ^ 63) (htransit : stream.inTransit = [])
    (hinbound : stream.inbound = []) : StreamFrames server stream where
  max := hmax
  size := hsize
  small := hsmall
  frames := ⟨[], by rw [htransit]; exact .nil, by rw [hempty, hinbound]; rfl⟩
  quiet := fun _ => ⟨htransit, hinbound⟩

lemma StreamFrames.write (h : StreamFrames server stream) {reqId : Nat} (hid : reqId < 2 ^ 63) :
    StreamFrames server (stream.write reqId) := by
  rw [ProviderStream.write]
  split
  · exact h
  · refine ⟨h.max, h.size, ?_, h.frames, h.quiet⟩
    intro k hk
    rcases List.mem_append.mp hk with hk | hk
    · exact h.small k hk
    · rw [List.mem_singleton.mp hk]
      exact hid

lemma StreamFrames.answer (h : StreamFrames server stream)
    (established : stream.connection = .established) {reqId : Nat} {payload : List UInt8}
    (hpending : reqId ∈ stream.pending) (hfits : 12 + payload.length ≤ defaultResponseSize) :
    StreamFrames server { stream with
      pending := stream.pending.erase reqId
      inTransit := stream.inTransit ++ [reqId]
      inbound := stream.inbound ++ replyFrame reqId payload } := by
  obtain ⟨fs, hfs, hbytes⟩ := h.frames
  refine ⟨h.max, h.size, fun k hk => h.small k (List.mem_of_mem_erase hk),
    ⟨fs ++ [replyFrame reqId payload], ?_, ?_⟩, fun hnot => absurd established hnot⟩
  · exact List.rel_append hfs
      (.cons (carriesReply_replyFrame _ _ (h.small reqId hpending) hfits) .nil)
  · rw [← List.append_assoc, hbytes]
    simp

lemma StreamFrames.replyRead (h : StreamFrames server stream)
    (established : stream.connection = .established) {chunk : List UInt8}
    (hfits : chunk.length ≤ allocBufferToAgent server) (harrived : chunk <+: stream.inbound) :
    StreamFrames (receivedServer server chunk) { stream with
      inbound := stream.inbound.drop chunk.length } := by
  obtain ⟨fs, hfs, hbytes⟩ := h.frames
  have hsize := h.size
  rw [allocBufferToAgent, h.max] at hfits
  obtain ⟨rest, hrest⟩ := harrived
  refine ⟨h.max, ?_, h.small, ⟨fs, hfs, ?_⟩, fun hnot => absurd established hnot⟩
  · simp only [receivedServer]
    omega
  · have hstored := read_store server.rawArray server.sizeOfRawArray chunk
    rw [buffered, ← hrest] at hbytes
    simp only [buffered, receivedServer, EndpointServer.store, hstored, ← hrest,
      List.drop_left' rfl]
    rw [List.append_assoc, hbytes]

/-- A pass that finds a frame finds the one of the first answer in transit, and takes it
off. -/
lemma StreamFrames.handled (h : StreamFrames server stream) {lengthBody lastLength : Int}
    (hfound : bufferedFrame 12 0 server.rawArray server.sizeOfRawArray =
      some (lengthBody, lastLength)) :
    ∃ reqId rest, stream.inTransit = reqId :: rest ∧
      bytes8ToLong server.rawArray 4 = (reqId : Int) ∧
      StreamFrames (handledServer server lastLength) { stream with
        inTransit := stream.inTransit.tail } := by
  have hcap : defaultResponseSize = 4096 := rfl
  have hsize := h.size
  obtain ⟨fs, hfs, hbytes⟩ := h.frames
  have hframes := ((List.forall₂_and_left _ _).mp hfs).1
  obtain ⟨done, rest, q, rfl, hcontent, hq, hnone⟩ :=
    replyCode.exists_split fs hframes (buffered server) stream.inbound hbytes
  cases done with
  | nil =>
    rw [List.flatten_nil, List.nil_append] at hcontent
    rw [← hcontent] at hnone
    rw [bufferedFrame_of_next_eq_none (by decide) (by omega) hnone] at hfound
    exact absurd hfound (by simp)
  | cons f done =>
    rw [List.flatten_cons, List.append_assoc] at hcontent
    have hframe := (hframes f (by simp)).1
    obtain ⟨reqId, transit, hcarries, hrest, htransit⟩ := List.forall₂_cons_left_iff.mp hfs
    obtain ⟨hsizeRest, hread⟩ := takeOff_frame (by omega) hcontent
    have hfound' := bufferedFrame_of_frame hframe (by decide) (by omega) hcontent
    have hlength : lastLength = f.length := by
      rw [hfound', Option.some.injEq, Prod.mk.injEq] at hfound
      exact hfound.2.symm
    have hlen : server.sizeOfRawArray = f.length + (done.flatten ++ q).length :=
      Mem.length_of_read_append hcontent
    refine ⟨reqId, transit, htransit, ?_, h.max, ?_, h.small, ⟨done ++ rest, ?_, ?_⟩, ?_⟩
    · rw [bytes8ToLong_frame hframe.le_length hcontent]
      exact hcarries.2
    · simp only [handledServer, hlength, hsizeRest]
      omega
    · rw [htransit]
      exact hrest
    · simp only [buffered, handledServer, hlength, hsizeRest, hread]
      rw [List.append_assoc, hq, List.flatten_append]
    · intro hnot
      rw [(h.quiet hnot).1] at htransit
      exact absurd htransit (by simp)

lemma StreamFrames.restart (h : StreamFrames server stream) (hempty : buffered server = [])
    (connection : Connection) (connStatus : Int) :
    StreamFrames { server with connStatus := connStatus } ⟨connection, [], [], []⟩ :=
  streamFrames_of_nil h.max h.size hempty (by simp) rfl rfl

lemma StreamFrames.makeConnectionToAgent (h : StreamFrames server stream)
    (hnot : stream.connection ≠ .established) :
    StreamFrames server (makeConnectionToAgent server stream) := by
  rw [Model.makeConnectionToAgent]
  split
  · exact h.restart (h.eq_nil (h.quiet hnot).1).1 _ server.connStatus
  · exact h

/-- All connections of a loop carry frames. -/
def CarriesFrames (loop : WorkLoop) : Prop :=
  ∀ which, StreamFrames (loop.evLoop.server.endpointServers which) (loop.streams which)

lemma carriesFrames_start (tid : Nat) (raw : Nat → Mem UInt8) :
    CarriesFrames (startWorkEventLoop tid raw) := by
  intro which
  exact streamFrames_of_nil rfl (Nat.zero_le _) rfl (by simp [startWorkEventLoop]) rfl rfl

lemma carriesFrames_update {servers : Nat → EndpointServer} {streams : Nat → ProviderStream}
    (h : ∀ k, StreamFrames (servers k) (streams k)) {which : Nat}
    (hnew : StreamFrames server' stream') (k : Nat) :
    StreamFrames (Function.update servers which server' k)
      (Function.update streams which stream' k) := by
  by_cases hk : k = which
  · rw [hk, Function.update_self, Function.update_self]
    exact hnew
  · rw [Function.update_of_ne hk, Function.update_of_ne hk]
    exact h k

lemma carriesFrames_update_stream {servers : Nat → EndpointServer}
    {streams : Nat → ProviderStream} (h : ∀ k, StreamFrames (servers k) (streams k)) {which : Nat}
    (hnew : StreamFrames (servers which) stream') (k : Nat) :
    StreamFrames (servers k) (Function.update streams which stream' k) :=
  (Function.forall_update_iff streams fun k stream => StreamFrames (servers k) stream).mpr
    ⟨hnew, fun k _ => h k⟩ k

lemma EndsAnswered.endsEmpty {loop : WorkLoop} {e : Event} (hcond : EndsAnswered loop e)
    (h : CarriesFrames loop) (shared : Shared) : EndsEmpty shared loop e := by
  cases e with
  | providerEnd which =>
    have hnone := (List.append_eq_nil_iff.mp hcond).2
    have hlen := congrArg List.length ((h which).eq_nil hnone).1
    rwa [buffered, Mem.length_read] at hlen
  | _ => trivial

theorem carriesFrames_step {env : Environment} {startTime : Int} {shared shared' : Shared}
    {loop loop' : WorkLoop} {e : Event} (h : CarriesFrames loop) (hcond : EndsEmpty shared loop e)
    (hstep : LoopStep env startTime shared loop e shared' loop') : CarriesFrames loop' := by
  cases hstep with
  | dispatch _ _ read =>
    obtain ⟨_, _, _, _, _, _, hread⟩ := read
    obtain ⟨-, -, -, hid, -⟩ := cReadConnectionData_dispatch hread
    exact carriesFrames_update_stream h ((h _).write (by omega))
  | answer established pending fits =>
    exact carriesFrames_update_stream h ((h _).answer established pending fits)
  | replyRead established fits arrived =>
    exact carriesFrames_update h ((h _).replyRead established fits arrived)
  | handled _ found reply =>
    obtain ⟨_, _, -, -, hnew⟩ := (h _).handled found
    have hserver := server_handleReply reply
    intro which
    simp only [EventLoop.setEndpoint, hserver]
    exact carriesFrames_update h hnew which
  | @providerEnd which =>
    have hempty : buffered (loop.evLoop.server.endpointServers which) = [] := by
      rw [buffered, hcond, Mem.read_zero]
    exact carriesFrames_update h ((h _).restart hempty _ _)
  | reconnect closing =>
    exact carriesFrames_update_stream h ((h _).makeConnectionToAgent (by rw [closing]; decide))
  | connectFailed connecting =>
    exact carriesFrames_update_stream h ((h _).makeConnectionToAgent (by rw [connecting]; decide))
  | @connected which connecting =>
    obtain ⟨hmax, hsize, hsmall, hframes, hquiet⟩ := h which
    exact carriesFrames_update h ⟨hmax, hsize, hsmall, hframes, fun hnot => absurd rfl hnot⟩
  | admitted => exact h
  | refuse => exact h
  | wait => exact h
  | clientEnd => exact h
  | closed => exact h
  | returned => exact h

end

end MeshAgent.Proofs
