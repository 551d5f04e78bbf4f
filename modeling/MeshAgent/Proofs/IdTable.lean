import MeshAgent.Proofs.ConsumerSteps
import Mathlib.Data.List.Basic

/-!
# The id counter and the slots of `http_req_dict`

An id selects the slot of its remainder, and a slot keeps the client of the last id that
selected it.
-/

namespace MeshAgent.Proofs
open MeshAgent.Foundations MeshAgent.Model

/-- The ids that a loop has used are those of its parity below the counter, and the slots
belong to the last 4096 of them. -/
structure IdTable (tid : Nat) (loop : WorkLoop) : Prop where
  parity : loop.evLoop.server.reqId % eventLoopNum = tid % eventLoopNum
  used : ∀ id, (loop.owner id).isSome = true ↔
    id < loop.evLoop.server.reqId ∧ id % eventLoopNum = tid % eventLoopNum
  slot_owner : ∀ slot client, loop.evLoop.server.httpReqDict slot = some client →
    ∃ id, loop.owner id = some client ∧ id % hashSlotNum = slot ∧
      loop.evLoop.server.reqId ≤ id + hashSlotNum
  owner_slot : ∀ id client, loop.owner id = some client →
    loop.evLoop.server.reqId ≤ id + hashSlotNum →
    loop.evLoop.server.httpReqDict (id % hashSlotNum) = some client

lemma idTable_start {tid : Nat} (h : tid < eventLoopNum) (raw : Nat → Mem UInt8) :
    IdTable tid (startWorkEventLoop tid raw) where
  parity := rfl
  used := by
    intro id
    simp only [startWorkEventLoop, initTcpServer, Option.isSome_none, Bool.false_eq_true, false_iff]
    simp only [eventLoopNum] at h ⊢
    omega
  slot_owner := by
    intro slot client hslot
    exact absurd hslot (by simp [startWorkEventLoop, initTcpServer])
  owner_slot := by
    intro id client howner
    exact absurd howner (by simp [startWorkEventLoop])

section

variable {tid client endpoint : Nat} {loop loop' : WorkLoop} {httpReq : HttpReq}

lemma IdTable.lt_reqId (h : IdTable tid loop) {id : Nat} (howner : loop.owner id = some client) :
    id < loop.evLoop.server.reqId ∧ id % eventLoopNum = tid % eventLoopNum :=
  (h.used id).mp (by rw [howner]; rfl)

lemma idTable_dispatched (h : IdTable tid loop) :
    IdTable tid (dispatchedLoop loop client endpoint httpReq) := by
  have htwo : eventLoopNum = 2 := rfl
  have hslots : hashSlotNum = 8192 := rfl
  have hparity := h.parity
  rw [htwo] at hparity
  constructor
  · simp only [dispatchedLoop, dispatchedServer, htwo]
    omega
  · intro id
    simp only [dispatchedLoop, dispatchedServer]
    by_cases hid : id = loop.evLoop.server.reqId
    · subst hid
      simp only [Function.update_self, Option.isSome_some, true_iff, htwo]
      omega
    · rw [Function.update_of_ne hid, h.used, htwo]
      omega
  · intro slot client' hslot
    simp only [dispatchedLoop, dispatchedServer] at hslot ⊢
    by_cases hs : slot = loop.evLoop.server.reqId % hashSlotNum
    · subst hs
      rw [Function.update_self] at hslot
      exact ⟨_, by rw [Function.update_self, hslot], rfl, by omega⟩
    · rw [Function.update_of_ne hs] at hslot
      obtain ⟨id, howner, hmod, hrecent⟩ := h.slot_owner slot client' hslot
      obtain ⟨hlt, hsame⟩ := h.lt_reqId howner
      refine ⟨id, by rw [Function.update_of_ne (by omega), howner], hmod, ?_⟩
      -- the only id of this parity that could drop out has the slot of the new one
      simp only [htwo, hslots] at hsame hmod hs hrecent ⊢
      omega
  · intro id client' howner hrecent
    simp only [dispatchedLoop, dispatchedServer] at howner hrecent ⊢
    by_cases hid : id = loop.evLoop.server.reqId
    · subst hid
      rw [Function.update_self] at howner ⊢
      exact howner
    · rw [Function.update_of_ne hid] at howner
      have hlt := (h.lt_reqId howner).1
      have hother : id % hashSlotNum ≠ loop.evLoop.server.reqId % hashSlotNum := by
        simp only [htwo, hslots] at hrecent ⊢
        omega
      rw [Function.update_of_ne hother]
      exact h.owner_slot id client' howner (by omega)

lemma IdTable.congr (h : IdTable tid loop)
    (hid : loop'.evLoop.server.reqId = loop.evLoop.server.reqId)
    (hdict : loop'.evLoop.server.httpReqDict = loop.evLoop.server.httpReqDict)
    (howner : loop'.owner = loop.owner) : IdTable tid loop' := by
  obtain ⟨h1, h2, h3, h4⟩ := h
  exact ⟨by rwa [hid], by rwa [hid, howner], by rwa [hid, hdict, howner],
    by rwa [hid, hdict, howner]⟩

lemma table_unchanged {env : Environment} {startTime : Int} {shared shared' : Shared} {e : Event}
    (h : LoopStep env startTime shared loop e shared' loop') :
    (loop'.evLoop.server.reqId = loop.evLoop.server.reqId ∧
      loop'.evLoop.server.httpReqDict = loop.evLoop.server.httpReqDict ∧
      loop'.owner = loop.owner) ∨
    ∃ client chunk stale now httpReq, e = .clientRead client chunk stale now ∧
      (loop.evLoop.reqs client).isSome = true ∧
      Dispatching env shared loop client chunk stale now ∧
      loop' = dispatchedLoop loop client (shared.lb.selectIndex env.limits) httpReq := by
  cases h with
  | dispatch record _ read =>
    exact .inr ⟨_, _, _, _, _, rfl, by rw [record]; rfl, read, rfl⟩
  | handled _ _ reply =>
    have hserver := server_handleReply reply
    refine .inl ⟨?_, ?_, rfl⟩
    · simp only [EventLoop.setEndpoint, hserver]
    · simp only [EventLoop.setEndpoint, hserver]
  | admitted => exact .inl ⟨rfl, rfl, rfl⟩
  | refuse => exact .inl ⟨rfl, rfl, rfl⟩
  | wait => exact .inl ⟨rfl, rfl, rfl⟩
  | clientEnd => exact .inl ⟨rfl, rfl, rfl⟩
  | closed => exact .inl ⟨rfl, rfl, rfl⟩
  | answer => exact .inl ⟨rfl, rfl, rfl⟩
  | replyRead => exact .inl ⟨rfl, rfl, rfl⟩
  | returned => exact .inl ⟨rfl, rfl, rfl⟩
  | providerEnd => exact .inl ⟨rfl, rfl, rfl⟩
  | reconnect => exact .inl ⟨rfl, rfl, rfl⟩
  | connected => exact .inl ⟨rfl, rfl, rfl⟩
  | connectFailed => exact .inl ⟨rfl, rfl, rfl⟩

lemma idTable_step {env : Environment} {startTime : Int} {shared shared' : Shared} {e : Event}
    (h : LoopStep env startTime shared loop e shared' loop') (hinv : IdTable tid loop) :
    IdTable tid loop' := by
  rcases table_unchanged h with ⟨hid, hdict, howner⟩ | ⟨_, _, _, _, _, _, _, _, rfl⟩
  · exact hinv.congr hid hdict howner
  · exact idTable_dispatched hinv

/-- The slot of an id still belongs to its client, if the client has not used a later id,
exactly until the 4096th id after it. -/
theorem IdTable.slot_eq_iff (h : IdTable tid loop) {id : Nat} (howner : loop.owner id = some client)
    (hlast : ∀ id', id < id' → loop.owner id' ≠ some client) :
    loop.evLoop.server.httpReqDict (id % hashSlotNum) = some client ↔
      loop.evLoop.server.reqId ≤ id + hashSlotNum := by
  constructor
  · intro hslot
    by_contra hold
    obtain ⟨id', howner', -, hrecent⟩ := h.slot_owner _ _ hslot
    exact hlast id' (by omega) howner'
  · exact h.owner_slot id client howner

end

end MeshAgent.Proofs
