import MeshAgent.Proofs.ConsumerProgress

/-!
# Records that `http_req_dict` outlives

`close_cb` frees a record without looking at the table. No slot dangles as long as the
slots of a client have all been taken over before its record is freed.
-/

namespace MeshAgent.Proofs
open MeshAgent.Foundations MeshAgent.Model

/-- `close_cb` runs for a client only after 4096 further ids have been used since each of
its own. -/
def SlotsTakenOver (_ : Shared) (loop : WorkLoop) : Event → Prop
  | .closed client => ∀ id, loop.owner id = some client →
      id + hashSlotNum < loop.evLoop.server.reqId
  | _ => True

section

variable {env : Environment} {startTime : Int} {shared shared' : Shared} {tid : Nat}
  {loop loop' : WorkLoop} {e : Event}

lemma noDangling_of_unchanged {evLoop evLoop' : EventLoop} (h : NoDangling evLoop)
    (hdict : evLoop'.server.httpReqDict = evLoop.server.httpReqDict)
    (hreqs : ∀ client, (evLoop.reqs client).isSome = true → (evLoop'.reqs client).isSome = true) :
    NoDangling evLoop' := by
  intro slot client hslot hclient
  rw [hdict] at hclient
  exact hreqs client (h slot client hslot hclient)

lemma isSome_update {α : Type} {f : Nat → Option α} {k client : Nat} (x : α)
    (h : (f client).isSome = true) : (Function.update f k (some x) client).isSome = true := by
  by_cases hk : client = k
  · rw [hk, Function.update_self]
    rfl
  · rwa [Function.update_of_ne hk]

lemma noDangling_dispatched {client endpoint : Nat} {httpReq : HttpReq}
    (h : NoDangling loop.evLoop) :
    NoDangling (dispatchedLoop loop client endpoint httpReq).evLoop := by
  intro slot client' hslot hclient
  simp only [dispatchedLoop, dispatchedServer] at hclient ⊢
  by_cases hs : slot = loop.evLoop.server.reqId % hashSlotNum
  · subst hs
    rw [Function.update_self, Option.some.injEq] at hclient
    rw [← hclient, Function.update_self]
    rfl
  · rw [Function.update_of_ne hs] at hclient
    exact isSome_update _ (h slot client' hslot hclient)

/-- Freeing a record leaves a slot dangling exactly if one of the last 4096 ids is its
client's. -/
theorem noDangling_closeCb_iff (htable : IdTable tid loop) (h : NoDangling loop.evLoop)
    (client : Nat) :
    NoDangling (closeCb loop.evLoop client) ↔
      ∀ id, loop.owner id = some client → id + hashSlotNum < loop.evLoop.server.reqId := by
  constructor
  · intro hclosed id howner
    by_contra hrecent
    have hslot := htable.owner_slot id client howner (by omega)
    have hfreed := hclosed _ client (Nat.mod_lt _ (by decide)) hslot
    simp only [closeCb, Function.update_self, Option.isSome_none, Bool.false_eq_true] at hfreed
  · intro hold slot client' hslot hclient
    have hother : client' ≠ client := by
      rintro rfl
      obtain ⟨id, howner, -, hrecent⟩ := htable.slot_owner slot client' hclient
      have := hold id howner
      omega
    simp only [closeCb, Function.update_of_ne hother]
    exact h slot client' hslot hclient

lemma noDangling_step (htable : IdTable tid loop) (h : NoDangling loop.evLoop)
    (hcond : SlotsTakenOver shared loop e)
    (hstep : LoopStep env startTime shared loop e shared' loop') : NoDangling loop'.evLoop := by
  cases hstep with
  | dispatch => exact noDangling_dispatched h
  | closed => exact (noDangling_closeCb_iff htable h _).mpr hcond
  | handled _ _ reply =>
    have hreply := noDangling_handleReply reply h
    exact hreply
  | admitted => exact noDangling_of_unchanged h rfl (fun _ hc => isSome_update _ hc)
  | wait => exact noDangling_of_unchanged h rfl (fun _ hc => isSome_update _ hc)
  | refuse => exact h
  | clientEnd => exact h
  | answer => exact h
  | replyRead => exact h
  | returned => exact h
  | providerEnd => exact h
  | reconnect => exact h
  | connected => exact h
  | connectFailed => exact h

end

lemma client_of_emit {which : Nat} {s : ReplyLoop} {reply : Reply} {next : Option ReplyLoop}
    (h : cReadFromProvideAgentsPass which s = .emit reply next) :
    ∃ slot, slot < hashSlotNum ∧ reply.client = s.evLoop.server.httpReqDict slot := by
  obtain ⟨-, -, hclient⟩ := emit_cases h
  refine ⟨_, ?_, hclient⟩
  have hlt := Int.tmod_lt_of_pos reply.reqId (show (0 : Int) < hashSlotNum by decide)
  have hpos : 0 < hashSlotNum := by decide
  omega

/-- In every run in which a record is freed only after its slots have been taken over, no
slot dangles in any state, and every record that the reply loop looks up is live. -/
theorem noDangling_run (env : Environment) (n : Nat) (startTime : Int)
    (raw : Nat → Nat → Mem UInt8) (es : List (Nat × Event)) (w : World)
    (h : Run (StepIf env SlotsTakenOver) (consumer n startTime raw) es w) (tid : Nat)
    (htid : tid < eventLoopNum) :
    NoDangling (w.loops tid).evLoop ∧
    ∀ which now reply next, (w.loops tid).nextPass w.shared which now = .emit reply next →
      ∀ client, reply.client = some client → ((w.loops tid).evLoop.reqs client).isSome = true := by
  have hinv := run_loops_invariant
    (I := fun tid loop => IdTable tid loop ∧ NoDangling loop.evLoop)
    (fun _ _ _ _ _ _ _ _ hinv hcond hstep =>
      ⟨idTable_step hstep hinv.1, noDangling_step hinv.1 hinv.2 hcond hstep⟩)
    (fun tid htid => ⟨idTable_start htid _, by
      intro slot client _ hslot
      exact absurd hslot (by simp [startWorkEventLoop, initTcpServer])⟩) h tid htid
  refine ⟨hinv.2, ?_⟩
  intro which now reply next hpass client hclient
  obtain ⟨slot, hslot, hreply⟩ := client_of_emit hpass
  exact hinv.2 slot client hslot (by rw [← hclient, hreply])

lemma clientEnd_closed (cond : Shared → WorkLoop → Event → Prop) {httpReq : HttpReq}
    {client : Nat} {s : Shared × WorkLoop} (record : s.2.evLoop.reqs client = some httpReq)
    (idle : s.2.reading = none) (active : s.2.closing client = false)
    (hend : cond s.1 s.2 (.clientEnd client uvEof))
    (hclosed : ∀ shared, cond shared
      { s.2 with closing := Function.update s.2.closing client true } (.closed client)) :
    ∃ t, Run (LoopStepIf env startTime cond) s [.clientEnd client uvEof, .closed client] t ∧
      t.2.evLoop = closeCb s.2.evLoop client := by
  refine ⟨(_, _), .snoc (t := ({ s.1 with connRemainCount := s.1.connRemainCount - 1 },
    { s.2 with closing := Function.update s.2.closing client true }))
    (.single ⟨?_, hend⟩) ⟨if_neg ?_, hclosed _⟩, rfl⟩
  · simp [idle]
  · have hguard : ¬ (s.2.reading ≠ none ∨ s.2.closing client = true) := by
      simp [idle, active]
    rw [WorkLoop.step, WorkLoop.clientEnd, record]
    simp only
    rw [if_neg hguard]
    rfl

/-- A client leaves while the request of another one is in the table. -/
theorem noDangling_run_other_client :
    ∃ es w, Run (StepIf (postEnvironment ['3']) SlotsTakenOver)
        (consumer 1 0 (fun _ _ _ => 0)) es w ∧
      (0, Event.closed 0) ∈ es ∧ (w.loops 0).evLoop.server.httpReqDict 0 = some 1 ∧
      NoDangling (w.loops 0).evLoop := by
  obtain ⟨s, hrun, hserved⟩ :=
    freshLoop_served (postEnvironment ['3']) SlotsTakenOver (fun _ _ => trivial)
      (fun _ _ => trivial)
  obtain ⟨httpReq, -, hread⟩ := clientRead_dispatches [97, 61, 98]
    (acceptsHeader_post ['3'] (by decide) (by decide)) (by decide)
    hserved.second hserved.idle (hserved.active 1) (headerPhase_init _ _ _ _)
    (by rw [hserved.counter]; decide) 0 0
  have hdispatch : Run (LoopStepIf (postEnvironment ['3']) 0 SlotsTakenOver) s
      [.clientRead 1 (postHeader ['3'] ++ [97, 61, 98]) 0 0] _ := .single ⟨hread, trivial⟩
  obtain ⟨t, hclose, hfreed⟩ := clientEnd_closed SlotsTakenOver (s := (_, dispatchedLoop s.2 1
      (s.1.lb.selectIndex (postEnvironment ['3']).limits) httpReq))
    (show (dispatchedLoop s.2 1 _ httpReq).evLoop.reqs 0 = some freshRequest by
      simp [dispatchedLoop, hserved.first])
    hserved.idle (hserved.active 0) trivial (fun _ id howner => by
      simp only [dispatchedLoop, Function.update_apply, hserved.owner] at howner
      split at howner <;> simp at howner)
  have hworld := run_of_loop_run (w := consumer 1 0 (fun _ _ _ => 0)) (by decide)
    ((hrun.append hdispatch).append hclose)
  refine ⟨_, _, hworld, by simp, ?_,
    (noDangling_run (postEnvironment ['3']) 1 0 (fun _ _ _ => 0) _ _ hworld 0 (by decide)).1⟩
  simp only [Function.update_self, hfreed]
  simp [closeCb, dispatchedLoop, dispatchedServer, hserved.counter]

/-- A client sends a request and leaves before the answer: its slot still refers to the
freed record. -/
theorem dangling_after_close :
    ∃ es w, Run (StepIf (postEnvironment ['3']) (fun _ _ _ => True))
        (consumer 1 0 (fun _ _ _ => 0)) es w ∧
      ¬ NoDangling (w.loops 0).evLoop := by
  obtain ⟨s, hrun, hserved⟩ :=
    freshLoop_served _ (fun _ _ _ => True) (fun _ _ => trivial) (fun _ _ => trivial)
  obtain ⟨httpReq, -, hread⟩ := clientRead_dispatches [97, 61, 98]
    (acceptsHeader_post ['3'] (by decide) (by decide)) (by decide)
    hserved.first hserved.idle (hserved.active 0) (headerPhase_init _ _ _ _)
    (by rw [hserved.counter]; decide) 0 0
  have hdispatch : Run (LoopStepIf (postEnvironment ['3']) 0 (fun _ _ _ => True)) s
      [.clientRead 0 (postHeader ['3'] ++ [97, 61, 98]) 0 0] _ := .single ⟨hread, trivial⟩
  obtain ⟨t, hclose, hfreed⟩ := clientEnd_closed (fun _ _ _ => True) (s := (_, dispatchedLoop s.2 0
      (s.1.lb.selectIndex (postEnvironment ['3']).limits) httpReq))
    (show (dispatchedLoop s.2 0 _ httpReq).evLoop.reqs 0 = some httpReq by simp [dispatchedLoop])
    hserved.idle (hserved.active 0) trivial (fun _ => trivial)
  refine ⟨_, _, run_of_loop_run (w := consumer 1 0 (fun _ _ _ => 0)) (by decide)
    ((hrun.append hdispatch).append hclose), ?_⟩
  intro h
  simp only [Function.update_self, hfreed] at h
  have hlive := h 0 0 (by decide) (by
    simp [closeCb, dispatchedLoop, dispatchedServer, hserved.counter])
  simp [closeCb] at hlive

end MeshAgent.Proofs
