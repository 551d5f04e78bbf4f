import Mathlib.Data.List.Perm.Subperm
import MeshAgent.Proofs.ReplyRouting

/-!
# The unanswered ids of a loop

As long as every client waits for its answer and no request falls 4096 requests behind, the
unanswered ids of a loop are all different, and each of them still has its slot.
-/

namespace MeshAgent.Proofs
open MeshAgent.Foundations MeshAgent.Model

/-- A client sends a request only after the answer to its last one and before any unanswered
id loses its slot, and a connection ends only between two frames. -/
def TakesTurns (env : Environment) (shared : Shared) (loop : WorkLoop) : Event → Prop
  | .clientRead client chunk stale now => Dispatching env shared loop client chunk stale now →
      ∀ which, ∀ reqId ∈ unanswered (loop.streams which), loop.owner reqId ≠ some client ∧
        loop.evLoop.server.reqId + eventLoopNum ≤ reqId + hashSlotNum
  | .providerEnd which => (loop.evLoop.server.endpointServers which).sizeOfRawArray = 0
  | _ => True

/-- No id is unanswered twice, on one connection or on two. -/
structure DistinctIds (loop : WorkLoop) : Prop where
  nodup : ∀ which, (unanswered (loop.streams which)).Nodup
  disjoint : ∀ which which', which ≠ which' →
    (unanswered (loop.streams which)).Disjoint (unanswered (loop.streams which'))

section

variable {env : Environment} {startTime : Int} {shared shared' : Shared} {tid : Nat}
  {loop loop' : WorkLoop} {e : Event}

lemma TakesTurns.awaitsAnswer (h : TakesTurns env shared loop e) :
    AwaitsAnswer env shared loop e := by
  rintro client chunk stale now rfl hread which reqId hmem
  exact (h hread which reqId hmem).1

lemma TakesTurns.endsEmpty (h : TakesTurns env shared loop e) : EndsEmpty shared loop e := by
  cases e with
  | providerEnd which => exact h
  | _ => trivial

lemma nodup_of_subperm {α : Type} {xs ys : List α} (h : xs.Subperm ys) (hys : ys.Nodup) :
    xs.Nodup := by
  obtain ⟨zs, hperm, hsub⟩ := h
  exact hperm.nodup_iff.mp (hys.sublist hsub)

lemma subperm_update {streams : Nat → ProviderStream} {which : Nat} {stream : ProviderStream}
    (h : (unanswered stream).Subperm (unanswered (streams which))) (k : Nat) :
    (unanswered (Function.update streams which stream k)).Subperm (unanswered (streams k)) := by
  by_cases hk : k = which
  · subst hk
    rwa [Function.update_self]
  · rw [Function.update_of_ne hk]

lemma subperm_makeConnectionToAgent (server : EndpointServer) (stream : ProviderStream) :
    (unanswered (makeConnectionToAgent server stream)).Subperm (unanswered stream) := by
  rw [makeConnectionToAgent]
  split
  · exact List.nil_subperm
  · exact List.Subperm.refl _

lemma unanswered_subperm (h : LoopStep env startTime shared loop e shared' loop') :
    (∀ which, (unanswered (loop'.streams which)).Subperm (unanswered (loop.streams which))) ∨
    ∃ client chunk stale now httpReq, e = .clientRead client chunk stale now ∧
      Dispatching env shared loop client chunk stale now ∧
      loop' = dispatchedLoop loop client (shared.lb.selectIndex env.limits) httpReq := by
  have hsame : ∀ which, (unanswered (loop.streams which)).Subperm
    (unanswered (loop.streams which)) :=
    fun _ => List.Subperm.refl _
  cases h with
  | dispatch _ _ read => exact .inr ⟨_, _, _, _, _, rfl, read, rfl⟩
  | @answer which reqId payload _ pending =>
    refine .inl (subperm_update (List.Perm.subperm ?_))
    simp only [unanswered]
    have hmove : ((loop.streams which).pending.erase reqId ++
        ((loop.streams which).inTransit ++ [reqId])).Perm
        (reqId :: ((loop.streams which).pending.erase reqId ++
          (loop.streams which).inTransit)) := by
      rw [← List.append_assoc]
      exact List.perm_append_singleton _ _
    exact hmove.trans ((List.perm_cons_erase pending).symm.append_right _)
  | handled =>
    refine .inl (subperm_update (List.Sublist.subperm ?_))
    exact (List.Sublist.refl _).append (List.tail_sublist _)
  | providerEnd => exact .inl (subperm_update List.nil_subperm)
  | reconnect => exact .inl (subperm_update (subperm_makeConnectionToAgent _ _))
  | connectFailed => exact .inl (subperm_update (subperm_makeConnectionToAgent _ _))
  | replyRead => exact .inl (subperm_update (List.Subperm.refl _))
  | connected => exact .inl (subperm_update (List.Subperm.refl _))
  | admitted => exact .inl hsame
  | refuse => exact .inl hsame
  | wait => exact .inl hsame
  | clientEnd => exact .inl hsame
  | closed => exact .inl hsame
  | returned => exact .inl hsame

lemma DistinctIds.of_subperm (h : DistinctIds loop)
    (hsub : ∀ which, (unanswered (loop'.streams which)).Subperm (unanswered (loop.streams which))) :
    DistinctIds loop' where
  nodup := fun which => nodup_of_subperm (hsub which) (h.nodup which)
  disjoint := by
    intro which which' hne id hid hid'
    exact h.disjoint which which' hne ((hsub which).subset hid) ((hsub which').subset hid')

lemma unanswered_dispatched {client endpoint : Nat} {httpReq : HttpReq} (which : Nat) :
    (unanswered ((dispatchedLoop loop client endpoint httpReq).streams which)).Subperm
      (loop.evLoop.server.reqId :: unanswered (loop.streams which)) ∧
    (which ≠ endpoint →
      unanswered ((dispatchedLoop loop client endpoint httpReq).streams which) =
        unanswered (loop.streams which)) := by
  simp only [dispatchedLoop]
  by_cases hwhich : which = endpoint
  · subst hwhich
    refine ⟨?_, fun hne => absurd rfl hne⟩
    rw [Function.update_self, ProviderStream.write]
    split
    · exact (List.sublist_cons_self _ _).subperm
    · rw [unanswered, unanswered, List.append_assoc]
      exact List.perm_middle.subperm
  · rw [Function.update_of_ne hwhich]
    exact ⟨(List.sublist_cons_self _ _).subperm, fun _ => rfl⟩

lemma distinctIds_dispatched {client endpoint : Nat} {httpReq : HttpReq} (h : DistinctIds loop)
    (hless : ∀ which, ∀ id ∈ unanswered (loop.streams which), id < loop.evLoop.server.reqId) :
    DistinctIds (dispatchedLoop loop client endpoint httpReq) := by
  have hnew : ∀ which, loop.evLoop.server.reqId ∉ unanswered (loop.streams which) :=
    fun which hmem => Nat.lt_irrefl _ (hless which _ hmem)
  refine ⟨fun which => nodup_of_subperm (unanswered_dispatched which).1
    (List.nodup_cons.mpr ⟨hnew which, h.nodup which⟩), ?_⟩
  intro which which' hne id hid hid'
  -- at most one of the two has the new id
  have hmem := (unanswered_dispatched which).1.subset hid
  have hmem' := (unanswered_dispatched which').1.subset hid'
  by_cases hwhich : which = endpoint
  · rw [(unanswered_dispatched which').2 (by omega)] at hid'
    rcases List.mem_cons.mp hmem with rfl | hold
    · exact hnew which' hid'
    · exact h.disjoint which which' hne hold hid'
  · rw [(unanswered_dispatched which).2 hwhich] at hid
    rcases List.mem_cons.mp hmem' with rfl | hold
    · exact hnew which hid
    · exact h.disjoint which which' hne hid hold

/-- Unless it is open, a connection has a status other than 0, and one that is closing has no
request queued. -/
structure ConnectionHolds (server : EndpointServer) (stream : ProviderStream) : Prop where
  status : stream.connection ≠ .established → server.connStatus ≠ 0
  refused : stream.connection = .closing → stream.pending = []

lemma forall_update_both {α β : Type} {P : α → β → Prop} {f : Nat → α} {g : Nat → β}
    (h : ∀ k, P (f k) (g k)) {which : Nat} {x : α} {y : β} (hnew : P x y) (k : Nat) :
    P (Function.update f which x k) (Function.update g which y k) := by
  by_cases hk : k = which
  · rw [hk, Function.update_self, Function.update_self]
    exact hnew
  · rw [Function.update_of_ne hk, Function.update_of_ne hk]
    exact h k

lemma forall_update_right {α β : Type} {P : α → β → Prop} {f : Nat → α} {g : Nat → β}
    (h : ∀ k, P (f k) (g k)) {which : Nat} {y : β} (hnew : P (f which) y) (k : Nat) :
    P (f k) (Function.update g which y k) :=
  (Function.forall_update_iff g fun k y => P (f k) y).mpr ⟨hnew, fun k _ => h k⟩ k

lemma ConnectionHolds.makeConnectionToAgent {server : EndpointServer} {stream : ProviderStream}
    (h : ConnectionHolds server stream) (hnot : stream.connection ≠ .established) :
    Model.makeConnectionToAgent server stream = ⟨.connecting, [], [], []⟩ :=
  if_pos (h.status hnot)

lemma connections_step
    (h : ∀ which, ConnectionHolds (loop.evLoop.server.endpointServers which) (loop.streams which))
    (hstep : LoopStep env startTime shared loop e shared' loop') (which : Nat) :
    ConnectionHolds (loop'.evLoop.server.endpointServers which) (loop'.streams which) := by
  cases hstep with
  | dispatch =>
    refine forall_update_right h ⟨?_, ?_⟩ which
    · rw [connection_write]
      exact (h _).status
    · rw [connection_write]
      intro hclosing
      rw [ProviderStream.write, if_pos hclosing]
      exact (h _).refused hclosing
  | answer established =>
    refine forall_update_right h ?_ which
    exact ⟨fun hnot => absurd established hnot, fun hclosing => by simp [established] at hclosing⟩
  | @replyRead reading =>
    refine forall_update_both h ?_ which
    exact ⟨(h reading).status, (h reading).refused⟩
  | @handled reading _ _ _ _ _ _ _ reply =>
    have hserver := server_handleReply reply
    simp only [EventLoop.setEndpoint, hserver]
    refine forall_update_both h ?_ which
    exact ⟨(h reading).status, (h reading).refused⟩
  | providerEnd =>
    refine forall_update_both h ?_ which
    exact ⟨fun _ => Int.negSucc_ne_zero 0, fun _ => rfl⟩
  | @reconnect k closing =>
    have hnot : (loop.streams k).connection ≠ .established := by simp [closing]
    refine forall_update_right h ?_ which
    rw [(h k).makeConnectionToAgent hnot]
    exact ⟨fun _ => (h k).status hnot, fun _ => rfl⟩
  | @connectFailed k connecting =>
    have hnot : (loop.streams k).connection ≠ .established := by simp [connecting]
    refine forall_update_right h ?_ which
    rw [(h k).makeConnectionToAgent hnot]
    exact ⟨fun _ => (h k).status hnot, fun _ => rfl⟩
  | connected =>
    refine forall_update_both h ?_ which
    exact ⟨fun hnot => absurd rfl hnot, fun hclosing => by simp at hclosing⟩
  | admitted => exact h which
  | refuse => exact h which
  | wait => exact h which
  | clientEnd => exact h which
  | closed => exact h which
  | returned => exact h which

/-- Everything that is known about the ids and the connections of a loop. -/
structure LoopHolds (tid : Nat) (loop : WorkLoop) : Prop where
  table : IdTable tid loop
  frames : CarriesFrames loop
  last : OwnersLast loop
  distinct : DistinctIds loop
  recent : ∀ which, ∀ id ∈ unanswered (loop.streams which),
    loop.evLoop.server.reqId ≤ id + hashSlotNum
  connections : ∀ which,
    ConnectionHolds (loop.evLoop.server.endpointServers which) (loop.streams which)

lemma loopHolds_start (htid : tid < eventLoopNum) (raw : Nat → Mem UInt8) :
    LoopHolds tid (startWorkEventLoop tid raw) where
  table := idTable_start htid raw
  frames := carriesFrames_start tid raw
  last := fun which reqId hmem => absurd hmem (by simp [startWorkEventLoop, unanswered])
  distinct := ⟨fun _ => List.nodup_nil, fun _ _ _ => List.disjoint_nil_left _⟩
  recent := fun which reqId hmem => absurd hmem (by simp [startWorkEventLoop, unanswered])
  connections := fun _ => ⟨fun _ => Int.negSucc_ne_zero 0, fun _ => rfl⟩

lemma LoopHolds.lt_reqId (h : LoopHolds tid loop) {which id : Nat}
    (hid : id ∈ unanswered (loop.streams which)) : id < loop.evLoop.server.reqId := by
  obtain ⟨client, howner, -⟩ := h.last which id hid
  exact (h.table.lt_reqId howner).1

lemma recent_step (h : LoopHolds tid loop) (hcond : TakesTurns env shared loop e)
    (hstep : LoopStep env startTime shared loop e shared' loop') (which id : Nat)
    (hid : id ∈ unanswered (loop'.streams which)) :
    loop'.evLoop.server.reqId ≤ id + hashSlotNum := by
  rcases table_unchanged hstep with
    ⟨hsame, -, -⟩ | ⟨client, chunk, stale, now, httpReq, rfl, -, hread, rfl⟩
  · rcases unanswered_step hstep hid with hold | ⟨-, hchanged⟩
    · rw [hsame]
      exact h.recent which id hold
    · exact absurd hsame hchanged
  · rcases List.mem_cons.mp ((unanswered_dispatched which).1.subset hid) with rfl | hold
    · simp only [dispatchedLoop, dispatchedServer, eventLoopNum, hashSlotNum]
      omega
    · exact (hcond hread which id hold).2

theorem loopHolds_step (h : LoopHolds tid loop) (hcond : TakesTurns env shared loop e)
    (hstep : LoopStep env startTime shared loop e shared' loop') : LoopHolds tid loop' where
  table := idTable_step hstep h.table
  frames := carriesFrames_step h.frames hcond.endsEmpty hstep
  last := ownersLast_step h.table h.last hcond.awaitsAnswer hstep
  distinct := by
    rcases unanswered_subperm hstep with hsub | ⟨_, _, _, _, _, -, -, rfl⟩
    · exact h.distinct.of_subperm hsub
    · exact distinctIds_dispatched h.distinct fun which id hid => h.lt_reqId hid
  recent := recent_step h hcond hstep
  connections := connections_step h.connections hstep

end

end MeshAgent.Proofs
