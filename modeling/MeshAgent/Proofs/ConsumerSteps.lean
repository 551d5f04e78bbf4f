import MeshAgent.Model.ConsumerSystem
import MeshAgent.Proofs.ClientCall
import MeshAgent.Proofs.ReplyHandling

/-!
# What a step of the consumer agent can do

One constructor for each way a step can end, with the guards that it has passed. All
invariants of the agent are proved by cases on it.
-/

namespace MeshAgent.Proofs
open MeshAgent.Foundations MeshAgent.Model

/-- The loop after a dispatch for `client` to `endpoint`. -/
def dispatchedLoop (loop : WorkLoop) (client endpoint : Nat) (httpReq : HttpReq) : WorkLoop :=
  { loop with
    evLoop :=
      { server := dispatchedServer loop.evLoop.server client
        reqs := Function.update loop.evLoop.reqs client (some httpReq) }
    streams := Function.update loop.streams endpoint
      ((loop.streams endpoint).write loop.evLoop.server.reqId)
    owner := Function.update loop.owner loop.evLoop.server.reqId (some client) }

/-- The endpoint's record after a chunk is stored. -/
def receivedServer (server : EndpointServer) (chunk : List UInt8) : EndpointServer :=
  { server.store chunk with sizeOfRawArray := server.sizeOfRawArray + chunk.length }

/-- The endpoint's record after a frame is taken off. -/
def handledServer (server : EndpointServer) (lastLength : Int) : EndpointServer :=
  { server with
    rawArray := (takeOff server.rawArray server.sizeOfRawArray lastLength).1
    sizeOfRawArray := (takeOff server.rawArray server.sizeOfRawArray lastLength).2 }

/-- A read that makes `c_read_connection_data` dispatch. -/
def Dispatching (env : Environment) (shared : Shared) (loop : WorkLoop) (client : Nat)
    (chunk : List UInt8) (stale now : Int) : Prop :=
  ∃ httpReq d lb server httpReq', loop.evLoop.reqs client = some httpReq ∧
    cReadConnectionData env shared.lb loop.evLoop.server client (httpReq.store chunk)
      chunk.length stale now = some (.dispatch d lb server httpReq')

/-- The ways a step of a loop can end. -/
inductive LoopStep (env : Environment) (startTime : Int) (shared : Shared) (loop : WorkLoop) :
    Event → Shared → WorkLoop → Prop
  | admitted {raw response : Mem UInt8} {contentLength tsReqBeg curTime : Int}
      (idle : loop.reading = none)
      (limit : shared.connRemainCount < connLimit startTime curTime) :
      LoopStep env startTime shared loop (.accept raw response contentLength tsReqBeg curTime)
        { shared with connRemainCount := shared.connRemainCount + 1 }
        { loop.setReq loop.accepted (initHttpReq (2 * defaultPackageSize) raw response
            contentLength tsReqBeg) with accepted := loop.accepted + 1 }
  | refuse {raw response : Mem UInt8} {contentLength tsReqBeg curTime : Int}
      (limit : connLimit startTime curTime ≤ shared.connRemainCount) :
      LoopStep env startTime shared loop (.accept raw response contentLength tsReqBeg curTime)
        shared loop
  | wait {client : Nat} {chunk : List UInt8} {stale now : Int} {httpReq httpReq' : HttpReq}
      (record : loop.evLoop.reqs client = some httpReq) :
      LoopStep env startTime shared loop (.clientRead client chunk stale now)
        shared (loop.setReq client httpReq')
  | dispatch {client : Nat} {chunk : List UInt8} {stale now : Int} {httpReq httpReq' : HttpReq}
      (record : loop.evLoop.reqs client = some httpReq) (active : loop.closing client = false)
      (read : Dispatching env shared loop client chunk stale now) :
      LoopStep env startTime shared loop (.clientRead client chunk stale now)
        { shared with lb := shared.lb.addRemain (shared.lb.selectIndex env.limits) 1 }
        (dispatchedLoop loop client (shared.lb.selectIndex env.limits) httpReq')
  | clientEnd {client : Nat} {nread : Int} {httpReq : HttpReq}
      (record : loop.evLoop.reqs client = some httpReq) (active : loop.closing client = false) :
      LoopStep env startTime shared loop (.clientEnd client nread)
        { shared with connRemainCount := shared.connRemainCount - 1 }
        { loop with closing := Function.update loop.closing client true }
  | closed {client : Nat} (closing : loop.closing client = true) :
      LoopStep env startTime shared loop (.closed client) shared
        { loop with
          evLoop := closeCb loop.evLoop client
          closing := Function.update loop.closing client false }
  | answer {which reqId : Nat} {payload : List UInt8}
      (established : (loop.streams which).connection = .established)
      (pending : reqId ∈ (loop.streams which).pending)
      (fits : 12 + payload.length ≤ defaultResponseSize) :
      LoopStep env startTime shared loop (.answer which reqId payload) shared
        (loop.setStream which { loop.streams which with
          pending := (loop.streams which).pending.erase reqId
          inTransit := (loop.streams which).inTransit ++ [reqId]
          inbound := (loop.streams which).inbound ++ replyFrame reqId payload })
  | replyRead {which : Nat} {chunk : List UInt8}
      (established : (loop.streams which).connection = .established)
      (fits : chunk.length ≤ allocBufferToAgent (loop.evLoop.server.endpointServers which))
      (arrived : chunk <+: (loop.streams which).inbound) :
      LoopStep env startTime shared loop (.replyRead which chunk) shared
        { loop.setStream which { loop.streams which with
            inbound := (loop.streams which).inbound.drop chunk.length } with
          evLoop := loop.evLoop.setEndpoint which
            (receivedServer (loop.evLoop.server.endpointServers which) chunk)
          reading := some which }
  | returned {which : Nat} {now : Int} (reading : loop.reading = some which)
      (incomplete : bufferedFrame 12 0 (loop.evLoop.server.endpointServers which).rawArray
        (loop.evLoop.server.endpointServers which).sizeOfRawArray = none) :
      LoopStep env startTime shared loop (.replyPass now) shared { loop with reading := none }
  | handled {which : Nat} {now lengthBody lastLength : Int} {lb : LoadBalancer} {evLoop : EventLoop}
      (reading : loop.reading = some which)
      (buffered : bufferedFrame 12 0 (loop.evLoop.server.endpointServers which).rawArray
        (loop.evLoop.server.endpointServers which).sizeOfRawArray = some (lengthBody, lastLength))
      (reply : handleReply shared.lb loop.evLoop which
        (bytes8ToLong (loop.evLoop.server.endpointServers which).rawArray 4) lengthBody now
        ((loop.evLoop.server.endpointServers which).rawArray.read 12 lengthBody.toNat) =
          some (lb, evLoop)) :
      LoopStep env startTime shared loop (.replyPass now) { shared with lb := lb }
        { loop.setStream which { loop.streams which with
            inTransit := (loop.streams which).inTransit.tail } with
          evLoop := evLoop.setEndpoint which
            (handledServer (loop.evLoop.server.endpointServers which) lastLength) }
  | providerEnd {which : Nat} (established : (loop.streams which).connection = .established) :
      LoopStep env startTime shared loop (.providerEnd which) shared
        { loop.setStream which ⟨.closing, [], [], []⟩ with
          evLoop := loop.evLoop.setEndpoint which
            { loop.evLoop.server.endpointServers which with connStatus := -1 } }
  | reconnect {which : Nat} (closing : (loop.streams which).connection = .closing) :
      LoopStep env startTime shared loop (.reconnect which) shared
        (loop.setStream which (makeConnectionToAgent (loop.evLoop.server.endpointServers which)
          (loop.streams which)))
  | connected {which : Nat} (connecting : (loop.streams which).connection = .connecting)
      (known : which < shared.lb.numOfEnds) :
      LoopStep env startTime shared loop (.connected which) shared
        { loop.setStream which { loop.streams which with connection := .established } with
          evLoop := (cAfterConnectToAAgent shared.lb.numOfEnds which loop.evLoop).1
          listenCalls := loop.listenCalls +
            if (cAfterConnectToAAgent shared.lb.numOfEnds which loop.evLoop).2 then 1 else 0 }
  | connectFailed {which : Nat} (connecting : (loop.streams which).connection = .connecting) :
      LoopStep env startTime shared loop (.connectFailed which) shared
        (loop.setStream which (makeConnectionToAgent (loop.evLoop.server.endpointServers which)
          (loop.streams which)))

lemma apply_update_of_eq {α β : Type} (field : α → β) (f : Nat → α) {k : Nat} {x : α}
    (h : field x = field (f k)) (i : Nat) : field (Function.update f k x i) = field (f i) := by
  by_cases hi : i = k
  · rw [hi, Function.update_self, h]
  · rw [Function.update_of_ne hi]

lemma connection_write (stream : ProviderStream) (reqId : Nat) :
    (stream.write reqId).connection = stream.connection := by
  unfold ProviderStream.write
  split <;> rfl

/-- What a pass that handles a frame has found, what it reads and whom it answers. -/
lemma emit_cases {which : Nat} {s : ReplyLoop} {reply : Reply} {next : Option ReplyLoop}
    (h : cReadFromProvideAgentsPass which s = .emit reply next) :
    (∃ lengthBody lastLength,
      bufferedFrame 12 0 (s.evLoop.server.endpointServers which).rawArray
        (s.evLoop.server.endpointServers which).sizeOfRawArray = some (lengthBody, lastLength) ∧
      reply.header = (s.evLoop.server.endpointServers which).rawArray.read 0 12 ∧
      reply.payload =
        (s.evLoop.server.endpointServers which).rawArray.read 12 lengthBody.toNat) ∧
    reply.reqId = bytes8ToLong (s.evLoop.server.endpointServers which).rawArray 4 ∧
    reply.client = replyClient s.evLoop reply.reqId := by
  rw [cReadFromProvideAgentsPass] at h
  simp only at h
  split at h
  · simp at h
  · next lengthBody lastLength hbuffered =>
    split at h
    · simp only [Pass.emit.injEq] at h
      rw [← h.1]
      exact ⟨⟨lengthBody, lastLength, hbuffered, rfl, rfl⟩, rfl, rfl⟩
    · simp only [Pass.emit.injEq] at h
      rw [← h.1]
      exact ⟨⟨lengthBody, lastLength, hbuffered, rfl, rfl⟩, rfl, rfl⟩

lemma ret_cases {which : Nat} {s : ReplyLoop}
    (h : cReadFromProvideAgentsPass which s = .ret) :
    bufferedFrame 12 0 (s.evLoop.server.endpointServers which).rawArray
      (s.evLoop.server.endpointServers which).sizeOfRawArray = none := by
  rw [cReadFromProvideAgentsPass] at h
  simp only at h
  split at h
  · assumption
  · split at h <;> simp at h

lemma cReadFromProvideAgentsPass_emit {which : Nat} {s s' : ReplyLoop} {reply : Reply}
    (h : cReadFromProvideAgentsPass which s = .emit reply (some s')) :
    ∃ lengthBody lastLength lb evLoop,
      bufferedFrame 12 0 (s.evLoop.server.endpointServers which).rawArray
        (s.evLoop.server.endpointServers which).sizeOfRawArray = some (lengthBody, lastLength) ∧
      handleReply s.lb s.evLoop which
        (bytes8ToLong (s.evLoop.server.endpointServers which).rawArray 4) lengthBody (s.clock 0)
        ((s.evLoop.server.endpointServers which).rawArray.read 12 lengthBody.toNat) =
          some (lb, evLoop) ∧
      s' = ⟨lb, evLoop.setEndpoint which
        (handledServer (s.evLoop.server.endpointServers which) lastLength),
        fun k => s.clock (k + 1)⟩ := by
  rw [cReadFromProvideAgentsPass] at h
  simp only at h
  split at h
  · simp at h
  · next lengthBody lastLength hbuffered =>
    split at h
    · simp at h
    · next lb evLoop hreply =>
      simp only [Pass.emit.injEq, Option.some.injEq] at h
      exact ⟨lengthBody, lastLength, lb, evLoop, hbuffered, hreply, h.2.symm⟩

section

variable {env : Environment} {startTime : Int} {shared shared' : Shared} {loop loop' : WorkLoop}

lemma loopStep_clientRead {client : Nat} {chunk : List UInt8} {stale now : Int}
    (h : loop.clientRead env shared client chunk stale now = some (shared', loop')) :
    LoopStep env startTime shared loop (.clientRead client chunk stale now) shared' loop' := by
  rw [WorkLoop.clientRead] at h
  split at h
  · simp at h
  · next httpReq hrecord =>
    split at h
    · simp at h
    · next hguard =>
      have hactive : loop.closing client = false := by
        simp only [not_or, Bool.not_eq_true] at hguard
        exact hguard.2.1
      split at h
      · simp only [Option.some.injEq, Prod.mk.injEq] at h
        obtain ⟨rfl, rfl⟩ := h
        exact .wait hrecord
      · next d lb server httpReq' hread =>
        simp only [Option.some.injEq, Prod.mk.injEq] at h
        obtain ⟨rfl, rfl⟩ := h
        have hdispatching : Dispatching env shared loop client chunk stale now :=
          ⟨httpReq, d, lb, server, httpReq', hrecord, hread⟩
        obtain ⟨-, -, -, -, rfl, rfl, rfl, -⟩ := cReadConnectionData_dispatch hread
        exact .dispatch hrecord hactive hdispatching
      · simp at h
      · simp at h

lemma loopStep_replyPass {now : Int} (h : loop.replyPass shared now = some (shared', loop')) :
    LoopStep env startTime shared loop (.replyPass now) shared' loop' := by
  rw [WorkLoop.replyPass] at h
  split at h
  · simp at h
  · next which hreading =>
    split at h
    · next hret =>
      simp only [Option.some.injEq, Prod.mk.injEq] at h
      obtain ⟨rfl, rfl⟩ := h
      exact .returned hreading (ret_cases hret)
    · simp at h
    · next reply s hpass =>
      simp only [Option.some.injEq, Prod.mk.injEq] at h
      obtain ⟨rfl, rfl⟩ := h
      obtain ⟨lengthBody, lastLength, lb, evLoop, hbuffered, hreply, rfl⟩ :=
        cReadFromProvideAgentsPass_emit hpass
      exact .handled hreading hbuffered hreply

theorem loopStep_of_step {e : Event}
    (h : loop.step env startTime shared e = some (shared', loop')) :
    LoopStep env startTime shared loop e shared' loop' := by
  cases e with
  | accept raw response contentLength tsReqBeg curTime =>
    simp only [WorkLoop.step, WorkLoop.onNewConnection] at h
    split at h
    · simp at h
    · next hguard =>
      split at h
      · next hlimit =>
        simp only [Option.some.injEq, Prod.mk.injEq] at h
        obtain ⟨rfl, rfl⟩ := h
        exact .admitted (by simpa using (not_or.mp hguard).1) hlimit
      · next hlimit =>
        simp only [Option.some.injEq, Prod.mk.injEq] at h
        obtain ⟨rfl, rfl⟩ := h
        exact .refuse (by omega)
  | clientRead client chunk stale now => exact loopStep_clientRead h
  | clientEnd client nread =>
    simp only [WorkLoop.step, WorkLoop.clientEnd] at h
    split at h
    · simp at h
    · next httpReq hrecord =>
      split at h
      · simp at h
      · next hguard =>
        split at h
        · simp only [Option.some.injEq, Prod.mk.injEq] at h
          obtain ⟨rfl, rfl⟩ := h
          exact .clientEnd hrecord (by simpa using (not_or.mp hguard).2)
        · simp at h
  | closed client =>
    simp only [WorkLoop.step, WorkLoop.closed, Option.ite_none_left_eq_some,
      Option.some.injEq, Prod.mk.injEq] at h
    obtain ⟨hguard, rfl, rfl⟩ := h
    exact .closed (by simpa using (not_or.mp hguard).2)
  | answer which reqId payload =>
    simp only [WorkLoop.step, WorkLoop.answer, Option.ite_none_left_eq_some,
      Option.some.injEq, Prod.mk.injEq] at h
    obtain ⟨hguard, rfl, rfl⟩ := h
    simp only [not_or, not_not, Nat.not_lt] at hguard
    exact .answer hguard.1 hguard.2.1 hguard.2.2
  | replyRead which chunk =>
    simp only [WorkLoop.step, WorkLoop.replyRead, Option.ite_none_left_eq_some,
      Option.some.injEq, Prod.mk.injEq] at h
    obtain ⟨hguard, rfl, rfl⟩ := h
    simp only [not_or, not_not, Nat.not_lt] at hguard
    exact .replyRead hguard.2.1 hguard.2.2.2.1 hguard.2.2.2.2
  | replyPass now => exact loopStep_replyPass h
  | providerEnd which =>
    simp only [WorkLoop.step, WorkLoop.providerEnd] at h
    split at h
    · simp at h
    · next hguard =>
      have hclose : cReadFromProvideAgents which ⟨shared.lb, loop.evLoop, fun _ => 0⟩ uvEof =
          .close (loop.evLoop.setEndpoint which
            { loop.evLoop.server.endpointServers which with connStatus := -1 }) := rfl
      simp only [hclose, Option.some.injEq, Prod.mk.injEq] at h
      obtain ⟨rfl, rfl⟩ := h
      simp only [not_or, not_not] at hguard
      exact .providerEnd hguard.2
  | reconnect which =>
    simp only [WorkLoop.step, WorkLoop.reconnect, Option.ite_none_left_eq_some,
      Option.some.injEq, Prod.mk.injEq] at h
    obtain ⟨hguard, rfl, rfl⟩ := h
    simp only [not_or, not_not] at hguard
    exact .reconnect hguard.2
  | connected which =>
    simp only [WorkLoop.step, WorkLoop.connected, Option.ite_none_left_eq_some,
      Option.some.injEq, Prod.mk.injEq] at h
    obtain ⟨hguard, rfl, rfl⟩ := h
    simp only [not_or, not_not, Nat.not_le] at hguard
    exact .connected hguard.2.1 hguard.2.2
  | connectFailed which =>
    simp only [WorkLoop.step, WorkLoop.connectFailed, Option.ite_none_left_eq_some,
      Option.some.injEq, Prod.mk.injEq] at h
    obtain ⟨hguard, rfl, rfl⟩ := h
    simp only [not_or, not_not] at hguard
    exact .connectFailed hguard.2

lemma numOfEnds_step {e : Event} (hstep : LoopStep env startTime shared loop e shared' loop') :
    shared'.lb.numOfEnds = shared.lb.numOfEnds := by
  cases hstep with
  | handled _ _ reply => exact numOfEnds_handleReply reply
  | _ => rfl

end

lemma step_cases {env : Environment} {w w' : World} {e : Nat × Event} (h : w.step env e = some w') :
    e.1 < eventLoopNum ∧ ∃ shared loop,
      LoopStep env w.startTime w.shared (w.loops e.1) e.2 shared loop ∧
      w' = { w with shared := shared, loops := Function.update w.loops e.1 loop } := by
  rw [World.step] at h
  split at h
  · next hloop =>
    obtain ⟨⟨shared, loop⟩, hstep, rfl⟩ := Option.map_eq_some_iff.mp h
    exact ⟨hloop, shared, loop, loopStep_of_step hstep, rfl⟩
  · simp at h

/-- The steps that meet a condition on what is shared, the loop and the event. -/
def StepIf (env : Environment) (cond : Shared → WorkLoop → Event → Prop) (w : World)
    (e : Nat × Event) (w' : World) : Prop :=
  w.step env e = some w' ∧ cond w.shared (w.loops e.1) e.2

/-- What every step preserves in the loop where it happens holds in all loops of a run. -/
theorem run_loops_invariant {env : Environment} {cond : Shared → WorkLoop → Event → Prop}
    {I : Nat → WorkLoop → Prop}
    (hstep : ∀ tid startTime shared loop e shared' loop', tid < eventLoopNum → I tid loop →
      cond shared loop e → LoopStep env startTime shared loop e shared' loop' → I tid loop')
    {n : Nat} {startTime : Int} {raw : Nat → Nat → Mem UInt8} {es : List (Nat × Event)} {w : World}
    (hstart : ∀ tid, tid < eventLoopNum → I tid (startWorkEventLoop tid (raw tid)))
    (h : Run (StepIf env cond) (consumer n startTime raw) es w) :
    ∀ tid, tid < eventLoopNum → I tid (w.loops tid) := by
  refine h.invariant (P := fun w => ∀ tid, tid < eventLoopNum → I tid (w.loops tid)) ?_ hstart
  intro w e w' hw ⟨hworld, hcond⟩
  obtain ⟨htid, shared, loop, hloop, rfl⟩ := step_cases hworld
  have hnew := hstep _ _ _ _ _ _ _ htid (hw _ htid) hcond hloop
  exact (Function.forall_update_iff w.loops fun tid loop => tid < eventLoopNum → I tid loop).mpr
    ⟨fun _ => hnew, fun tid _ => hw tid⟩

/-- The same steps, of one loop alone. -/
def LoopStepIf (env : Environment) (startTime : Int) (cond : Shared → WorkLoop → Event → Prop)
    (s : Shared × WorkLoop) (e : Event) (s' : Shared × WorkLoop) : Prop :=
  s.2.step env startTime s.1 e = some s' ∧ cond s.1 s.2 e

/-- A run of one loop, while the other does nothing, is a run of the agent. -/
theorem run_of_loop_run {env : Environment} {cond : Shared → WorkLoop → Event → Prop} {w : World}
    {tid : Nat} (htid : tid < eventLoopNum) {es : List Event} {s : Shared × WorkLoop}
    (h : Run (LoopStepIf env w.startTime cond) (w.shared, w.loops tid) es s) :
    Run (StepIf env cond) w (es.map (Prod.mk tid))
      { w with shared := s.1, loops := Function.update w.loops tid s.2 } := by
  induction h with
  | nil =>
    simp only [Function.update_eq_self]
    exact .nil w
  | snoc _ hlast ih =>
    rw [List.map_append]
    refine .snoc ih ⟨?_, by simpa using hlast.2⟩
    rw [World.step, if_pos htid]
    simp only [Function.update_self, hlast.1, Option.map_some, Function.update_idem]

end MeshAgent.Proofs
