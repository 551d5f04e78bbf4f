import MeshAgent.Model.CopiedMesh
import MeshAgent.Proofs.DistinctIds
import MeshAgent.Proofs.LinkSteps

/-!
# What a callback of the consumer agent does in the mesh

A callback dispatches a request, which is written unless its connection is closing, or handles
a reply and writes its payload, or gives up a connection, or leaves what is on its way as it is.
-/

namespace MeshAgent.Proofs
open MeshAgent.Foundations MeshAgent.Model

/-- What the connections carry is the same, and the open ones are still open. -/
structure SameContent (loop loop' : WorkLoop) (which : Nat) : Prop where
  pending : (loop'.streams which).pending = (loop.streams which).pending
  inTransit : (loop'.streams which).inTransit = (loop.streams which).inTransit
  bytes : buffered (loop'.evLoop.server.endpointServers which) ++ (loop'.streams which).inbound =
    buffered (loop.evLoop.server.endpointServers which) ++ (loop.streams which).inbound
  established : (loop.streams which).connection = .established →
    (loop'.streams which).connection = .established

/-- All records have buffers of the same size. -/
def RecordsSized (loop : WorkLoop) : Prop :=
  ∀ client httpReq, loop.evLoop.reqs client = some httpReq →
    httpReq.rawArrayMaxSize = 2 * defaultPackageSize

/-- A call of `c_read_connection_data` that dispatches, with the chunk that it was called for. -/
structure DispatchCall (env : Environment) (shared : Shared) (loop : WorkLoop) (client : Nat)
    (chunk : List UInt8) (stale now : Int) (httpReq : HttpReq) (d : Dispatch)
    (httpReq' : HttpReq) : Prop where
  record : loop.evLoop.reqs client = some httpReq
  nonempty : chunk ≠ []
  fits : chunk.length ≤ allocBuffer httpReq
  call : ∃ lb server, cReadConnectionData env shared.lb loop.evLoop.server client
    (httpReq.store chunk) chunk.length stale now = some (.dispatch d lb server httpReq')

/-- The pass that handles a reply, and the client whom it is written to. -/
structure ReplyCall (shared : Shared) (loop : WorkLoop) (which : Nat) (now : Int)
    (reply : Reply) (loop' : WorkLoop) : Prop where
  reading : loop.reading = some which
  pass : ∃ next, loop.nextPass shared which now = .emit reply (some next) ∧
    loop' = { loop.setStream which { loop.streams which with
      inTransit := (loop.streams which).inTransit.tail } with evLoop := next.evLoop }

/-- The payload of a reply is written to the client that is looked up, unless there is none or
it is being closed. -/
def WritesReply (loop : WorkLoop) (reply : Reply) (writes : List UvWrite) : Prop :=
  (writes = [] ∧ ∀ client, reply.client = some client → loop.closing client = true) ∨
    ∃ client, reply.client = some client ∧
      writes = [⟨client, .responsePackage, reply.payload, [], .queued⟩]

/-- The ways a callback of the consumer agent can end in the mesh. -/
inductive AgentStep (env : Environment) (startTime : Int) (shared : Shared) (m : MeshLoop) :
    Event → Shared → MeshLoop → Prop
  | quiet {e : Event} {shared' : Shared} {loop' : WorkLoop}
      (step : LoopStep env startTime shared m.loop e shared' loop')
      (same : ∀ which, SameContent m.loop loop' which) :
      AgentStep env startTime shared m e shared' ⟨loop', m.outside⟩
  | forwarded {client : Nat} {chunk : List UInt8} {stale now : Int} {httpReq httpReq' : HttpReq}
      {d : Dispatch} {shared' : Shared} {offset : Int}
      (read : DispatchCall env shared m.loop client chunk stale now httpReq d httpReq')
      (accepted : (m.loop.streams d.endpoint).connection ≠ .closing) :
      AgentStep env startTime shared m (.clientRead client chunk stale now) shared'
        ⟨dispatchedLoop m.loop client d.endpoint httpReq',
          (m.outside.ask (receivedBytes m.loop (.clientRead client chunk stale now)) client
            d.reqId).copyWrite ⟨client, .rawArray d.endpoint d.reqId offset, d.bytes, [], .queued⟩⟩
  | refused {client : Nat} {chunk : List UInt8} {stale now : Int} {httpReq httpReq' : HttpReq}
      {d : Dispatch} {shared' : Shared}
      (read : DispatchCall env shared m.loop client chunk stale now httpReq d httpReq')
      (closing : (m.loop.streams d.endpoint).connection = .closing) :
      AgentStep env startTime shared m (.clientRead client chunk stale now) shared'
        ⟨dispatchedLoop m.loop client d.endpoint httpReq',
          m.outside.ask (receivedBytes m.loop (.clientRead client chunk stale now)) client d.reqId⟩
  | handled {which : Nat} {now : Int} {reply : Reply} {shared' : Shared} {loop' : WorkLoop}
      {writes : List UvWrite} (pass : ReplyCall shared m.loop which now reply loop')
      (written : WritesReply m.loop reply writes) :
      AgentStep env startTime shared m (.replyPass now) shared'
        ⟨loop', writes.foldl Outside.copyWrite m.outside⟩
  | dropped {e : Event} {which : Nat} {shared' : Shared} {loop' : WorkLoop}
      (ended : e = .providerEnd which ∨ e = .connectFailed which)
      (lost : (loop'.streams which).pending = [] ∧ (loop'.streams which).inTransit = [])
      (same : ∀ k, k ≠ which → SameContent m.loop loop' k) :
      AgentStep env startTime shared m e shared' ⟨loop', m.outside.setLink which .empty⟩

section

variable {env : Environment} {startTime : Int} {shared shared' : Shared} {tid : Nat}
  {m m' : MeshLoop} {loop loop' : WorkLoop} {e : Event}

lemma clientRead_cases {client : Nat} {chunk : List UInt8} {stale now : Int}
    (h : loop.clientRead env shared client chunk stale now = some (shared', loop')) :
    ∃ httpReq httpReq', loop.evLoop.reqs client = some httpReq ∧
      httpReq'.rawArrayMaxSize = httpReq.rawArrayMaxSize ∧
      loop'.evLoop.reqs = Function.update loop.evLoop.reqs client (some httpReq') ∧
      (loop' = loop.setReq client httpReq' ∧
        dispatched env shared loop (.clientRead client chunk stale now) = none ∧
        newWrites env shared loop (.clientRead client chunk stale now) = [] ∨
      ∃ d offset, DispatchCall env shared loop client chunk stale now httpReq d httpReq' ∧
        loop' = dispatchedLoop loop client d.endpoint httpReq' ∧
        dispatched env shared loop (.clientRead client chunk stale now) = some (client, d) ∧
        newWrites env shared loop (.clientRead client chunk stale now) =
          if (loop.streams d.endpoint).connection = .closing then []
          else [⟨client, .rawArray d.endpoint d.reqId offset, d.bytes, [], .queued⟩]) := by
  rw [WorkLoop.clientRead] at h
  split at h
  · simp at h
  next httpReq hrecord =>
  split at h
  · simp at h
  next hguard =>
  simp only [not_or, Nat.not_lt] at hguard
  obtain ⟨-, -, hne, hfit⟩ := hguard
  have hpos : (0 : Int) < chunk.length := by
    have := List.length_pos_iff.mpr hne
    omega
  split at h
  · next httpReq' hread =>
    simp only [Option.some.injEq, Prod.mk.injEq] at h
    obtain ⟨-, rfl⟩ := h
    obtain ⟨-, -, -, hmax, -⟩ := cReadConnectionData_wait hpos hread
    refine ⟨httpReq, httpReq', hrecord, hmax, rfl, .inl ⟨rfl, ?_, ?_⟩⟩
    · simp only [dispatched, hrecord, hread]
    · simp only [newWrites, hrecord, hread]
  · next d lb server httpReq' hread =>
    simp only [Option.some.injEq, Prod.mk.injEq] at h
    obtain ⟨-, rfl⟩ := h
    obtain ⟨-, -, -, -, hd, rfl, rfl, hemptied⟩ := cReadConnectionData_dispatch hread
    refine ⟨httpReq, httpReq', hrecord, hemptied.rawArrayMaxSize, rfl, .inr
      ⟨d, rawArrayStartOffset env (httpReq.store chunk) chunk.length,
        ⟨hrecord, hne, hfit, _, _, hread⟩, by rw [hd]; rfl, ?_, ?_⟩⟩
    · simp only [dispatched, hrecord, hread]
    · simp only [newWrites, hrecord, hread]
  · simp at h
  · simp at h

/-- What a pass of the reply loop does, and what it writes. -/
lemma replyPass_cases {now : Int} (h : loop.replyPass shared now = some (shared', loop')) :
    loop' = { loop with reading := none } ∧ newWrites env shared loop (.replyPass now) = [] ∨
    ∃ which reply, ReplyCall shared loop which now reply loop' ∧
      WritesReply loop reply (newWrites env shared loop (.replyPass now)) := by
  rw [WorkLoop.replyPass] at h
  split at h
  · simp at h
  next which hreading =>
  split at h
  · next hpass =>
    simp only [Option.some.injEq, Prod.mk.injEq] at h
    obtain ⟨-, rfl⟩ := h
    exact .inl ⟨rfl, by simp only [newWrites, hreading, hpass]⟩
  · simp at h
  · next reply next hpass =>
    simp only [Option.some.injEq, Prod.mk.injEq] at h
    obtain ⟨-, rfl⟩ := h
    refine .inr ⟨which, reply, ⟨hreading, next, hpass, rfl⟩, ?_⟩
    simp only [newWrites, hreading, hpass]
    cases hclient : reply.client with
    | none => exact .inl ⟨rfl, by simp [hclient]⟩
    | some client =>
      by_cases hclosing : loop.closing client = true
      · refine .inl ⟨if_pos hclosing, ?_⟩
        intro client' hclient'
        rw [hclient, Option.some.injEq] at hclient'
        exact hclient' ▸ hclosing
      · exact .inr ⟨client, hclient, if_neg hclosing⟩

lemma sameContent_of_eq (hstreams : loop'.streams = loop.streams)
    (hservers : loop'.evLoop.server.endpointServers = loop.evLoop.server.endpointServers) :
    ∀ which, SameContent loop loop' which := fun _ =>
  ⟨by rw [hstreams], by rw [hstreams], by rw [hstreams, hservers], fun h => by rwa [hstreams]⟩

lemma sameContent_update {k : Nat} {server : EndpointServer} {stream : ProviderStream}
    (hstreams : loop'.streams = Function.update loop.streams k stream)
    (hservers : loop'.evLoop.server.endpointServers =
      Function.update loop.evLoop.server.endpointServers k server)
    (hpending : stream.pending = (loop.streams k).pending)
    (htransit : stream.inTransit = (loop.streams k).inTransit)
    (hbytes : buffered server ++ stream.inbound =
      buffered (loop.evLoop.server.endpointServers k) ++ (loop.streams k).inbound)
    (hopen : (loop.streams k).connection = .established → stream.connection = .established) :
    ∀ which, SameContent loop loop' which := by
  intro which
  by_cases hwhich : which = k
  · subst hwhich
    refine ⟨?_, ?_, ?_, ?_⟩
    · rw [hstreams, Function.update_self, hpending]
    · rw [hstreams, Function.update_self, htransit]
    · rw [hstreams, hservers, Function.update_self, Function.update_self, hbytes]
    · rw [hstreams, Function.update_self]
      exact hopen
  · refine ⟨?_, ?_, ?_, ?_⟩
    · rw [hstreams, Function.update_of_ne hwhich]
    · rw [hstreams, Function.update_of_ne hwhich]
    · rw [hstreams, hservers, Function.update_of_ne hwhich, Function.update_of_ne hwhich]
    · rw [hstreams, Function.update_of_ne hwhich]
      exact id

lemma sameContent_replyRead {k : Nat} {chunk : List UInt8}
    (arrived : chunk <+: (loop.streams k).inbound) :
    ∀ which, SameContent loop { loop.setStream k { loop.streams k with
        inbound := (loop.streams k).inbound.drop chunk.length } with
      evLoop := loop.evLoop.setEndpoint k
        (receivedServer (loop.evLoop.server.endpointServers k) chunk)
      reading := some k } which := by
  obtain ⟨rest, hrest⟩ := arrived
  have hstored := read_store (loop.evLoop.server.endpointServers k).rawArray
    (loop.evLoop.server.endpointServers k).sizeOfRawArray chunk
  refine sameContent_update rfl rfl rfl rfl ?_ id
  simp only [buffered, receivedServer, EndpointServer.store, hstored, ← hrest, List.drop_left,
    List.append_assoc]

/-- A connection that is not open carries nothing for which a new one could not take its
place. -/
lemma LoopHolds.reconnected (h : LoopHolds tid loop) {k : Nat}
    (hnot : (loop.streams k).connection ≠ .established) :
    makeConnectionToAgent (loop.evLoop.server.endpointServers k) (loop.streams k) =
      ⟨.connecting, [], [], []⟩ ∧ (loop.streams k).inTransit = [] ∧
      buffered (loop.evLoop.server.endpointServers k) = [] ∧ (loop.streams k).inbound = [] := by
  have htransit := ((h.frames k).quiet hnot).1
  exact ⟨(h.connections k).makeConnectionToAgent hnot, htransit, (h.frames k).eq_nil htransit⟩

lemma sameContent_reconnect (h : LoopHolds tid loop) {k : Nat}
    (closing : (loop.streams k).connection = .closing) :
    ∀ which, SameContent loop (loop.setStream k (makeConnectionToAgent
      (loop.evLoop.server.endpointServers k) (loop.streams k))) which := by
  obtain ⟨hnew, htransit, hempty, hinbound⟩ := h.reconnected (k := k) (by simp [closing])
  refine sameContent_update rfl (Function.update_eq_self k _).symm ?_ ?_ ?_ ?_
  · rw [hnew, (h.connections k).refused closing]
  · rw [hnew, htransit]
  · rw [hnew, hinbound]
    rfl
  · simp [closing]

lemma sameContent_refused {k client : Nat} {httpReq : HttpReq}
    (closing : (loop.streams k).connection = .closing) :
    ∀ which, SameContent loop (dispatchedLoop loop client k httpReq) which := by
  have hwrite : (loop.streams k).write loop.evLoop.server.reqId = loop.streams k :=
    if_pos closing
  refine sameContent_of_eq ?_ rfl
  simp only [dispatchedLoop, hwrite, Function.update_eq_self]

lemma sameContent_other {k : Nat} {server : EndpointServer} {stream : ProviderStream}
    (hstreams : loop'.streams = Function.update loop.streams k stream)
    (hservers : loop'.evLoop.server.endpointServers =
      Function.update loop.evLoop.server.endpointServers k server) :
    ∀ which, which ≠ k → SameContent loop loop' which := by
  intro which hwhich
  refine ⟨?_, ?_, ?_, ?_⟩
  · rw [hstreams, Function.update_of_ne hwhich]
  · rw [hstreams, Function.update_of_ne hwhich]
  · rw [hstreams, hservers, Function.update_of_ne hwhich, Function.update_of_ne hwhich]
  · rw [hstreams, Function.update_of_ne hwhich]
    exact id

lemma agent_eq (h : m.copiedAgent env startTime shared e = some (shared', m')) :
    (∀ which reqId payload, e ≠ .answer which reqId payload) ∧
    ∃ loop', m.loop.step env startTime shared e = some (shared', loop') ∧
      m' = ⟨loop', ((newWrites env shared m.loop e).foldl Outside.copyWrite
        (m.outside.noteRequest env shared m.loop e)).dropLink e⟩ := by
  rw [MeshLoop.copiedAgent.eq_def] at h
  split at h
  · simp at h
  next hother =>
  split at h
  · simp at h
  next shared₁ loop₁ hstep =>
  simp only [Option.some.injEq, Prod.mk.injEq] at h
  obtain ⟨rfl, rfl⟩ := h
  exact ⟨hother, loop₁, hstep, rfl⟩

theorem agentStep_of_agent (hloop : LoopHolds tid m.loop)
    (h : m.copiedAgent env startTime shared e = some (shared', m')) :
    AgentStep env startTime shared m e shared' m' := by
  obtain ⟨hother, loop', hstep, rfl⟩ := agent_eq h
  have hcases := loopStep_of_step hstep
  cases e with
  | accept => cases hcases with
    | admitted => exact .quiet (loopStep_of_step hstep) (sameContent_of_eq rfl rfl)
    | refuse => exact .quiet (loopStep_of_step hstep) (sameContent_of_eq rfl rfl)
  | clientRead client chunk stale now =>
    obtain ⟨httpReq, httpReq', -, -, -, hread⟩ := clientRead_cases hstep
    rcases hread with ⟨rfl, hquiet, hnone⟩ | ⟨d, offset, hread, rfl, hdispatched, hwrites⟩
    · rw [hnone, Outside.noteRequest, hquiet]
      exact .quiet hcases (sameContent_of_eq rfl rfl)
    · rw [hwrites, Outside.noteRequest, hdispatched]
      by_cases hclosing : (m.loop.streams d.endpoint).connection = .closing
      · rw [if_pos hclosing]
        exact .refused hread hclosing
      · rw [if_neg hclosing]
        exact .forwarded hread hclosing
  | clientEnd => cases hcases with
    | clientEnd => exact .quiet (loopStep_of_step hstep) (sameContent_of_eq rfl rfl)
  | closed => cases hcases with
    | closed => exact .quiet (loopStep_of_step hstep) (sameContent_of_eq rfl rfl)
  | answer which reqId payload => exact absurd rfl (hother which reqId payload)
  | replyRead => cases hcases with
    | replyRead _ _ arrived =>
      exact .quiet (loopStep_of_step hstep) (sameContent_replyRead arrived)
  | replyPass now =>
    rcases replyPass_cases hstep with ⟨rfl, hnone⟩ | ⟨which, reply, hpass, hwrites⟩
    · rw [hnone]
      exact .quiet hcases (sameContent_of_eq rfl rfl)
    · exact .handled hpass hwrites
  | providerEnd k => cases hcases with
    | providerEnd =>
      exact .dropped (.inl rfl) (by simp [WorkLoop.setStream]) (sameContent_other rfl rfl)
  | reconnect => cases hcases with
    | reconnect closing =>
      exact .quiet (loopStep_of_step hstep) (sameContent_reconnect hloop closing)
  | connected => cases hcases with
    | connected =>
      exact .quiet (loopStep_of_step hstep) (sameContent_update rfl rfl rfl rfl rfl (fun _ => rfl))
  | connectFailed k => cases hcases with
    | connectFailed connecting =>
      obtain ⟨hnew, -⟩ := hloop.reconnected (k := k) (by simp [connecting])
      exact .dropped (.inr rfl) (by simp [WorkLoop.setStream, hnew])
        (sameContent_other rfl (Function.update_eq_self k _).symm)

lemma RecordsSized.update (h : RecordsSized loop) {client : Nat} {record : Option HttpReq}
    (hreqs : loop'.evLoop.reqs = Function.update loop.evLoop.reqs client record)
    (hrecord : ∀ httpReq, record = some httpReq →
      httpReq.rawArrayMaxSize = 2 * defaultPackageSize) : RecordsSized loop' := by
  rw [RecordsSized, hreqs]
  exact (Function.forall_update_iff loop.evLoop.reqs fun _ record => ∀ httpReq,
    record = some httpReq → httpReq.rawArrayMaxSize = 2 * defaultPackageSize).mpr
    ⟨hrecord, fun client _ => h client⟩

lemma recordsSized_step (h : RecordsSized loop)
    (hstep : loop.step env startTime shared e = some (shared', loop')) : RecordsSized loop' := by
  cases loopStep_of_step hstep with
  | admitted =>
    apply h.update rfl
    rintro _ ⟨⟩
    rfl
  | wait | dispatch =>
    obtain ⟨httpReq, httpReq', hrecord, hmax, hreqs, -⟩ := clientRead_cases hstep
    apply h.update hreqs
    rintro _ ⟨⟩
    rw [hmax, h _ _ hrecord]
  | closed => exact h.update rfl (by simp)
  | handled _ _ reply =>
    rcases handleReply_cases reply with ⟨-, -, rfl⟩ | ⟨client, httpReq, -, hrecord, -, rfl⟩
    · exact h
    · apply h.update rfl
      rintro _ ⟨⟩
      exact h client httpReq hrecord
  | refuse => exact h
  | clientEnd => exact h
  | answer => exact h
  | replyRead => exact h
  | returned => exact h
  | providerEnd => exact h
  | reconnect => exact h
  | connected => exact h
  | connectFailed => exact h

end

end MeshAgent.Proofs
