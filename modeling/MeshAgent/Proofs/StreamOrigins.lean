import MeshAgent.Proofs.ReplyRouting

/-!
# On which connection the buffered bytes have arrived

The record of an endpoint, with its buffer, outlives the connection. An observer notes for
every buffered byte the number of its connection.
-/

namespace MeshAgent.Proofs
open MeshAgent.Foundations MeshAgent.Model

/-- For every endpoint, how many connections have ended, and for every byte in its buffer on
which connection it has arrived. -/
structure Origins where
  connectionNo : Nat → Nat
  origins : Nat → List Nat

def noOrigins : Origins := ⟨fun _ => 0, fun _ => []⟩

/-- What an event does to the bytes in the buffers. -/
def trackOrigins (loop : WorkLoop) (g : Origins) : Event → Origins
  | .replyRead which chunk =>
    { g with
      origins := Function.update g.origins which
        (g.origins which ++ List.replicate chunk.length (g.connectionNo which)) }
  | .replyPass _ =>
    match loop.reading with
    | none => g
    | some which =>
      let server := loop.evLoop.server.endpointServers which
      { g with
        origins := Function.update g.origins which
          ((g.origins which).drop (takenBytes 12 0 server.rawArray server.sizeOfRawArray)) }
  | .providerEnd which =>
    { g with
      connectionNo := Function.update g.connectionNo which (g.connectionNo which + 1) }
  | _ => g

/-- The observer of an agent. -/
def observeOrigins (w : World) (e : Nat × Event) (g : Nat → Origins) : Nat → Origins :=
  Function.update g e.1 (trackOrigins (w.loops e.1) (g e.1) e.2)

/-- All buffered bytes have arrived on the present connection. -/
structure FromPresent (loop : WorkLoop) (g : Origins) : Prop where
  origins : ∀ which, g.origins which =
    List.replicate (loop.evLoop.server.endpointServers which).sizeOfRawArray (g.connectionNo which)
  max : ∀ which,
    (loop.evLoop.server.endpointServers which).rawArrayMaxLength = defaultResponseSize
  quiet : ∀ which, (loop.streams which).connection ≠ .established →
    (loop.evLoop.server.endpointServers which).sizeOfRawArray = 0

section

variable {env : Environment} {startTime : Int} {shared shared' : Shared} {loop loop' : WorkLoop}
  {e : Event} {g : Origins}

lemma fromPresent_start (tid : Nat) (raw : Nat → Mem UInt8) :
    FromPresent (startWorkEventLoop tid raw) noOrigins where
  origins _ := rfl
  max _ := rfl
  quiet _ _ := rfl

lemma FromPresent.congr (h : FromPresent loop g)
    (hsize : ∀ which, (loop'.evLoop.server.endpointServers which).sizeOfRawArray =
      (loop.evLoop.server.endpointServers which).sizeOfRawArray)
    (hmax : ∀ which, (loop'.evLoop.server.endpointServers which).rawArrayMaxLength =
      (loop.evLoop.server.endpointServers which).rawArrayMaxLength)
    (hquiet : ∀ which, (loop'.streams which).connection ≠ .established →
      (loop.streams which).connection ≠ .established) : FromPresent loop' g where
  origins which := by
    rw [hsize]
    exact h.origins which
  max which := by
    rw [hmax]
    exact h.max which
  quiet which hnot := by
    rw [hsize]
    exact h.quiet which (hquiet which hnot)

lemma FromPresent.update (h : FromPresent loop g) {which : Nat} (server : EndpointServer)
    {tags : List Nat}
    (hservers : loop'.evLoop.server.endpointServers =
      Function.update loop.evLoop.server.endpointServers which server)
    (hconnection : ∀ k, (loop'.streams k).connection = (loop.streams k).connection)
    (hmax : server.rawArrayMaxLength =
      (loop.evLoop.server.endpointServers which).rawArrayMaxLength)
    (htags : tags = List.replicate server.sizeOfRawArray (g.connectionNo which))
    (hquiet : (loop.streams which).connection ≠ .established → server.sizeOfRawArray = 0) :
    FromPresent loop' { g with origins := Function.update g.origins which tags } := by
  constructor
  · intro k
    simp only [hservers]
    by_cases hk : k = which
    · subst hk
      rw [Function.update_self, Function.update_self, htags]
    · rw [Function.update_of_ne hk, Function.update_of_ne hk]
      exact h.origins k
  · intro k
    rw [hservers, apply_update_of_eq EndpointServer.rawArrayMaxLength _ hmax]
    exact h.max k
  · intro k hnot
    rw [hconnection] at hnot
    rw [hservers]
    by_cases hk : k = which
    · subst hk
      rw [Function.update_self]
      exact hquiet hnot
    · rw [Function.update_of_ne hk]
      exact h.quiet k hnot

lemma FromPresent.setStream (h : FromPresent loop g) {which : Nat} {stream : ProviderStream}
    (hquiet : stream.connection ≠ .established →
      (loop.streams which).connection ≠ .established) :
    FromPresent (loop.setStream which stream) g := by
  refine h.congr (fun _ => rfl) (fun _ => rfl) ?_
  intro k hnot
  by_cases hk : k = which
  · subst hk
    simp only [WorkLoop.setStream, Function.update_self] at hnot
    exact hquiet hnot
  · simpa only [WorkLoop.setStream, Function.update_of_ne hk] using hnot

lemma FromPresent.providerEnd (h : FromPresent loop g) {which : Nat}
    (hempty : (loop.evLoop.server.endpointServers which).sizeOfRawArray = 0) :
    FromPresent { loop.setStream which ⟨.closing, [], [], []⟩ with
        evLoop := loop.evLoop.setEndpoint which
          { loop.evLoop.server.endpointServers which with connStatus := -1 } }
      { g with
        connectionNo := Function.update g.connectionNo which (g.connectionNo which + 1) } := by
  have hsize := apply_update_of_eq EndpointServer.sizeOfRawArray
    loop.evLoop.server.endpointServers
    (show ({ loop.evLoop.server.endpointServers which with connStatus := -1 } :
      EndpointServer).sizeOfRawArray = _ from rfl)
  have hmax := apply_update_of_eq EndpointServer.rawArrayMaxLength
    loop.evLoop.server.endpointServers
    (show ({ loop.evLoop.server.endpointServers which with connStatus := -1 } :
      EndpointServer).rawArrayMaxLength = _ from rfl)
  constructor
  · intro k
    simp only [EventLoop.setEndpoint, hsize]
    by_cases hk : k = which
    · subst hk
      rw [h.origins, hempty]
      rfl
    · rw [Function.update_of_ne hk]
      exact h.origins k
  · intro k
    simp only [EventLoop.setEndpoint, hmax]
    exact h.max k
  · intro k hnot
    simp only [EventLoop.setEndpoint, hsize]
    by_cases hk : k = which
    · rw [hk]
      exact hempty
    · simp only [WorkLoop.setStream, Function.update_of_ne hk] at hnot
      exact h.quiet k hnot

lemma fromPresent_step (h : FromPresent loop g) (hcond : EndsEmpty shared loop e)
    (hstep : LoopStep env startTime shared loop e shared' loop') :
    FromPresent loop' (trackOrigins loop g e) := by
  cases hstep with
  | @replyRead which chunk established =>
    refine h.update (receivedServer (loop.evLoop.server.endpointServers which) chunk) rfl
      (apply_update_of_eq ProviderStream.connection _ rfl) rfl ?_
      (fun hnot => absurd established hnot)
    rw [h.origins, List.replicate_append_replicate]
    rfl
  | @handled which _ _ lastLength _ _ reading found reply =>
    have hserver := server_handleReply reply
    have htaken : takenBytes 12 0 (loop.evLoop.server.endpointServers which).rawArray
        (loop.evLoop.server.endpointServers which).sizeOfRawArray = sizeTOfInt lastLength := by
      unfold takenBytes
      rw [found]
    unfold trackOrigins
    simp only [reading, htaken]
    refine h.update (handledServer (loop.evLoop.server.endpointServers which) lastLength) ?_
      (apply_update_of_eq ProviderStream.connection _ rfl) rfl ?_ ?_
    · simp only [EventLoop.setEndpoint, hserver]
    · rw [h.origins, List.drop_replicate]
      rfl
    · intro hnot
      simp only [handledServer, takeOff, h.quiet which hnot, Nat.zero_sub]
  | @returned which _ reading incomplete =>
    have htaken : takenBytes 12 0 (loop.evLoop.server.endpointServers which).rawArray
        (loop.evLoop.server.endpointServers which).sizeOfRawArray = 0 := by
      unfold takenBytes
      rw [incomplete]
    unfold trackOrigins
    simp only [reading, htaken, List.drop_zero, Function.update_eq_self]
    exact h.congr (fun _ => rfl) (fun _ => rfl) (fun _ hnot => hnot)
  | providerEnd => exact h.providerEnd hcond
  | @connected which connecting =>
    have hset : FromPresent (loop.setStream which
        { loop.streams which with connection := .established }) g :=
      h.setStream (fun hnot => absurd rfl hnot)
    exact hset.congr (apply_update_of_eq EndpointServer.sizeOfRawArray _ rfl)
      (apply_update_of_eq EndpointServer.rawArrayMaxLength _ rfl) (fun _ hnot => hnot)
  | dispatch =>
    refine h.congr (fun _ => rfl) (fun _ => rfl) ?_
    intro k hnot
    unfold dispatchedLoop at hnot
    rwa [apply_update_of_eq ProviderStream.connection _ (connection_write _ _)] at hnot
  | answer established => exact h.setStream (fun hnot => absurd established hnot)
  | reconnect closing => exact h.setStream (fun _ => by rw [closing]; decide)
  | connectFailed connecting => exact h.setStream (fun _ => by rw [connecting]; decide)
  | admitted => exact h.congr (fun _ => rfl) (fun _ => rfl) (fun _ hnot => hnot)
  | refuse => exact h
  | wait => exact h.congr (fun _ => rfl) (fun _ => rfl) (fun _ hnot => hnot)
  | clientEnd => exact h.congr (fun _ => rfl) (fun _ => rfl) (fun _ hnot => hnot)
  | closed => exact h.congr (fun _ => rfl) (fun _ => rfl) (fun _ hnot => hnot)

lemma FromPresent.connected (h : FromPresent loop g) {which : Nat}
    (hstep : LoopStep env startTime shared loop (.connected which) shared' loop') :
    (loop'.evLoop.server.endpointServers which).sizeOfRawArray = 0 ∧
      (loop'.evLoop.server.endpointServers which).rawArrayMaxLength = defaultResponseSize := by
  cases hstep with
  | connected connecting =>
    have hempty := h.quiet which (by rw [connecting]; decide)
    have hmax := h.max which
    simp only [cAfterConnectToAAgent, EventLoop.setEndpoint, Function.update_self]
    exact ⟨hempty, hmax⟩

end

theorem exists_origins {env : Environment} {n : Nat} {startTime : Int}
    {raw : Nat → Nat → Mem UInt8} {es : List (Nat × Event)} {w : World}
    (h : Run (StepIf env EndsEmpty) (consumer n startTime raw) es w) :
    ∃ g, Run (Observed (StepIf env EndsEmpty) observeOrigins)
      (consumer n startTime raw, fun _ => noOrigins) es (w, g) :=
  h.observed observeOrigins fun _ => noOrigins

/-- In every state of a run in which connections end between two frames, all that is buffered
has arrived on the present connections. -/
lemma fromPresent_run {env : Environment} {n : Nat} {startTime : Int} {raw : Nat → Nat → Mem UInt8}
    {es : List (Nat × Event)} {w : World} {g : Nat → Origins}
    (h : Run (Observed (StepIf env EndsEmpty) observeOrigins)
      (consumer n startTime raw, fun _ => noOrigins) es (w, g)) :
    ∀ tid, tid < eventLoopNum → FromPresent (w.loops tid) (g tid) ∧
      CarriesFrames (w.loops tid) := by
  refine h.invariant (P := fun s => ∀ tid, tid < eventLoopNum →
    FromPresent (s.1.loops tid) (s.2 tid) ∧ CarriesFrames (s.1.loops tid)) ?_ ?_
  · rintro ⟨w, g⟩ e ⟨w', g'⟩ hinv ⟨⟨hworld, hcond⟩, hobserved⟩ tid htid
    obtain ⟨-, shared, loop, hloop, rfl⟩ := step_cases hworld
    obtain ⟨hpresent, hframes⟩ := hinv tid htid
    subst hobserved
    unfold observeOrigins
    by_cases he : tid = e.1
    · subst he
      simp only [Function.update_self]
      exact ⟨fromPresent_step hpresent hcond hloop, carriesFrames_step hframes hcond hloop⟩
    · simp only [Function.update_of_ne he]
      exact ⟨hpresent, hframes⟩
  · intro tid _
    exact ⟨fromPresent_start tid _, carriesFrames_start tid _⟩

lemma length_reply_le {which : Nat} {s : ReplyLoop} {reply : Reply} {next : Option ReplyLoop}
    (hpass : cReadFromProvideAgentsPass which s = .emit reply next)
    (hsize : (s.evLoop.server.endpointServers which).sizeOfRawArray ≤ defaultResponseSize) :
    (reply.header ++ reply.payload).length ≤
      (s.evLoop.server.endpointServers which).sizeOfRawArray := by
  have hcap : defaultResponseSize = 4096 := rfl
  obtain ⟨⟨lengthBody, lastLength, hfound, hheader, hpayload⟩, -, -⟩ := emit_cases hpass
  obtain ⟨hle, -, hlast, -, hfits⟩ :=
    (bufferedFrame_eq_some_iff (by decide) (by omega)).mp hfound
  rw [hheader, hpayload, List.length_append, Mem.length_read, Mem.length_read]
  omega

/-- When connections end between two frames only, a reply that is handled consists of bytes
of the present connection, and a connection that is established again finds an empty buffer,
from which any frames are handled as they arrive. -/
theorem reconnection_clean (env : Environment) (n : Nat) (startTime : Int)
    (raw : Nat → Nat → Mem UInt8) (es : List (Nat × Event)) (w : World) (g : Nat → Origins)
    (h : Run (Observed (StepIf env EndsEmpty) observeOrigins)
      (consumer n startTime raw, fun _ => noOrigins) es (w, g))
    (tid : Nat) (htid : tid < eventLoopNum) (which : Nat) :
    (∀ now reply next, (w.loops tid).nextPass w.shared which now = .emit reply next →
      ((g tid).origins which).take (reply.header ++ reply.payload).length =
        List.replicate (reply.header ++ reply.payload).length ((g tid).connectionNo which)) ∧
    (∀ w', w.step env (tid, .connected which) = some w' →
      ((w'.loops tid).evLoop.server.endpointServers which).sizeOfRawArray = 0 ∧
      ∀ clock fs, (∀ f ∈ fs, replyCode.IsFrame f ∧
          LiveSlot (w'.loops tid).evLoop (frameId f)) →
        ChunkIndependent (replyOffered which)
          (fun s => (s.evLoop.server.endpointServers which).sizeOfRawArray) HandlesReply
          (ReplyLoop.read which) ⟨w'.shared.lb, (w'.loops tid).evLoop, clock⟩ fs) := by
  obtain ⟨hpresent, hframes⟩ := fromPresent_run h tid htid
  constructor
  · intro now reply next hpass
    have hle := length_reply_le hpass (hframes which).size
    rw [hpresent.origins, List.take_replicate, Nat.min_eq_left hle]
  · intro w' hstep
    obtain ⟨-, shared, loop, hloop, rfl⟩ := step_cases hstep
    obtain ⟨hempty, hmax⟩ := hpresent.connected hloop
    simp only [Function.update_self]
    refine ⟨hempty, ?_⟩
    intro clock fs hfs
    exact read_chunkIndependent which hmax hempty hfs

/-- A step with its observer, computed. -/
def observedStep (env : Environment) (s : World × (Nat → Origins)) (e : Nat × Event) :
    Option (World × (Nat → Origins)) :=
  (s.1.step env e).map fun w => (w, observeOrigins s.1 e s.2)

/-- An answer is buffered as a whole. -/
def wholeAnswer : List (Nat × Event) :=
  [(0, .connected 0), (0, .accept (fun _ => 0) (fun _ => 0) 0 0 0),
    (0, .clientRead 0 (postHeader ['3'] ++ [97, 61, 98]) 0 0), (0, .answer 0 0 [42]),
    (0, .replyRead 0 (replyFrame 0 [42]))]

/-- The answer is handled, and the connection ends. -/
def answeredEnd : List (Nat × Event) :=
  [(0, .replyPass 0), (0, .replyPass 0), (0, .providerEnd 0), (0, .reconnect 0)]

/-- A step with its observer, computed, in which no connection ends within a frame. -/
def cleanStep (env : Environment) (s : World × (Nat → Origins)) (e : Nat × Event) :
    Option (World × (Nat → Origins)) :=
  match e.2 with
  | .providerEnd which =>
    if ((s.1.loops e.1).evLoop.server.endpointServers which).sizeOfRawArray = 0 then
      observedStep env s e
    else none
  | _ => observedStep env s e

lemma run_of_cleanStep {env : Environment} {es : List (Nat × Event)}
    {s t : World × (Nat → Origins)} (h : es.foldlM (cleanStep env) s = some t) :
    Run (Observed (StepIf env EndsEmpty) observeOrigins) s es t := by
  refine .of_foldlM (fun s e t hstep => ?_) h
  have hobserved : observedStep env s e = some t ∧ EndsEmpty s.1.shared (s.1.loops e.1) e.2 := by
    unfold cleanStep at hstep
    split at hstep
    · next which hend =>
      rw [hend]
      split at hstep
      · next hempty => exact ⟨hstep, hempty⟩
      · exact absurd hstep (by simp)
    · next hother =>
      refine ⟨hstep, ?_⟩
      unfold EndsEmpty
      split
      · next which hend => exact absurd hend (hother which)
      · trivial
  obtain ⟨w, hw, rfl⟩ := Option.map_eq_some_iff.mp hobserved.1
  exact ⟨⟨hw, hobserved.2⟩, rfl⟩

/-- An answer is buffered and handled, its connection ends and is established again. -/
theorem reconnection_clean_answered :
    ∃ w g reply next w₁ g₁ w',
      Run (Observed (StepIf (postEnvironment ['3']) EndsEmpty) observeOrigins)
        (consumer 1 0 (fun _ _ _ => 0), fun _ => noOrigins) wholeAnswer (w, g) ∧
      (w.loops 0).nextPass w.shared 0 0 = .emit reply next ∧
      ((g 0).origins 0).take (reply.header ++ reply.payload).length =
        List.replicate (reply.header ++ reply.payload).length ((g 0).connectionNo 0) ∧
      Run (Observed (StepIf (postEnvironment ['3']) EndsEmpty) observeOrigins)
        (w, g) answeredEnd (w₁, g₁) ∧
      w₁.step (postEnvironment ['3']) (0, .connected 0) = some w' ∧
      ((w'.loops 0).evLoop.server.endpointServers 0).sizeOfRawArray = 0 ∧
      ChunkIndependent (replyOffered 0)
        (fun s => (s.evLoop.server.endpointServers 0).sizeOfRawArray) HandlesReply
        (ReplyLoop.read 0) ⟨w'.shared.lb, (w'.loops 0).evLoop, fun _ => 0⟩ [requestFrame] := by
  have hwhole : ((wholeAnswer.foldlM (cleanStep (postEnvironment ['3']))
      (consumer 1 0 (fun _ _ _ => 0), fun _ => noOrigins)).map fun s =>
        bufferedFrame 12 0 ((s.1.loops 0).evLoop.server.endpointServers 0).rawArray
          ((s.1.loops 0).evLoop.server.endpointServers 0).sizeOfRawArray) =
      some (some (1, 13)) := by
    decide +kernel
  have hend : (((wholeAnswer ++ answeredEnd).foldlM (cleanStep (postEnvironment ['3']))
      (consumer 1 0 (fun _ _ _ => 0), fun _ => noOrigins)).bind fun s =>
        (s.1.step (postEnvironment ['3']) (0, .connected 0)).map fun w =>
          (w.loops 0).evLoop.server.httpReqDict 7) = some none := by
    decide +kernel
  obtain ⟨⟨w, g⟩, hfold, hfound⟩ := Option.map_eq_some_iff.mp hwhole
  obtain ⟨⟨w₁, g₁⟩, hfold₁, hnext⟩ := Option.bind_eq_some_iff.mp hend
  obtain ⟨w', hstep, hslot⟩ := Option.map_eq_some_iff.mp hnext
  rw [List.foldlM_append, hfold] at hfold₁
  have hrun := run_of_cleanStep hfold
  have hrun₁ := run_of_cleanStep hfold₁
  obtain ⟨reply, next, hpass⟩ := exists_emit
    (s := ⟨w.shared.lb, (w.loops 0).evLoop, fun _ => 0⟩) hfound
  obtain ⟨hempty, hclean⟩ := (reconnection_clean (postEnvironment ['3']) 1 0 (fun _ _ _ => 0) _ w₁
    g₁ (hrun.append hrun₁) 0 (by decide) 0).2 w' hstep
  refine ⟨w, g, reply, next, w₁, g₁, w', hrun, hpass,
    (reconnection_clean (postEnvironment ['3']) 1 0 (fun _ _ _ => 0) _ w g hrun 0 (by decide) 0).1
      0 reply next hpass, hrun₁, hstep, hempty, hclean (fun _ => 0) [requestFrame] ?_⟩
  intro f hf
  rw [List.mem_singleton.mp hf]
  refine ⟨⟨⟨by decide, by decide⟩, by decide, by decide⟩, fun client hclient => ?_⟩
  have hid : frameId requestFrame = 7 := by decide
  rw [hid, replyClient_of_nonneg _ (by decide)] at hclient
  exact absurd (hslot.symm.trans hclient) (by simp)

/-- The connection ends after the first byte of an answer. -/
def cutAnswer : List (Nat × Event) :=
  [(0, .connected 0), (0, .accept (fun _ => 0) (fun _ => 0) 0 0 0),
    (0, .clientRead 0 (postHeader ['3'] ++ [97, 61, 98]) 0 0), (0, .answer 0 0 []),
    (0, .replyRead 0 [0]), (0, .replyPass 0), (0, .providerEnd 0), (0, .reconnect 0),
    (0, .connected 0), (0, .clientRead 0 (postHeader ['3'] ++ [97, 61, 98]) 0 0),
    (0, .answer 0 2 []), (0, .replyRead 0 (replyFrame 2 []))]

/-- The byte that is left over makes up a frame with eleven bytes of the new connection. -/
theorem reconnection_mixes :
    ∃ es w g reply next,
      Run (Observed (StepIf (postEnvironment ['3']) (fun _ _ _ => True)) observeOrigins)
        (consumer 1 0 (fun _ _ _ => 0), fun _ => noOrigins) es (w, g) ∧
      (w.loops 0).nextPass w.shared 0 0 = .emit reply next ∧
      ((g 0).origins 0).take (reply.header ++ reply.payload).length = 0 :: List.replicate 11 1 := by
  have hresult : ((cutAnswer.foldlM (observedStep (postEnvironment ['3']))
      (consumer 1 0 (fun _ _ _ => 0), fun _ => noOrigins)).map fun s =>
        ((s.2 0).origins 0, bufferedFrame 12 0
          ((s.1.loops 0).evLoop.server.endpointServers 0).rawArray
          ((s.1.loops 0).evLoop.server.endpointServers 0).sizeOfRawArray)) =
      some (0 :: List.replicate 12 1, some (0, 12)) := by
    decide +kernel
  obtain ⟨⟨w, g⟩, hfold, hvalue⟩ := Option.map_eq_some_iff.mp hresult
  obtain ⟨horigins, hfound⟩ := Prod.mk.inj hvalue
  have hrun : Run (Observed (StepIf (postEnvironment ['3']) (fun _ _ _ => True)) observeOrigins)
      (consumer 1 0 (fun _ _ _ => 0), fun _ => noOrigins) cutAnswer (w, g) := by
    refine .of_foldlM ?_ hfold
    intro s e t hstep
    obtain ⟨w, hw, rfl⟩ := Option.map_eq_some_iff.mp hstep
    exact ⟨⟨hw, trivial⟩, rfl⟩
  obtain ⟨reply, next, hpass⟩ := exists_emit
    (s := ⟨w.shared.lb, (w.loops 0).evLoop, fun _ => 0⟩) hfound
  obtain ⟨⟨lengthBody, lastLength, hfound', hheader, hpayload⟩, -, -⟩ := emit_cases hpass
  rw [hfound, Option.some.injEq, Prod.mk.injEq] at hfound'
  refine ⟨cutAnswer, w, g, reply, next, hrun, hpass, ?_⟩
  rw [hheader, hpayload, ← hfound'.1, List.length_append, Mem.length_read, Mem.length_read]
  exact congrArg (List.take 12) horigins

end MeshAgent.Proofs
