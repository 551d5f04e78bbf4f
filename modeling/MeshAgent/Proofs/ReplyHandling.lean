import MeshAgent.Model.ConsumerAgent

/-!
# Handling one reply

What the body of the reply loop can do, and when it does not touch a freed record.
-/

namespace MeshAgent.Proofs
open MeshAgent.Foundations MeshAgent.Model

/-- Every slot that is not `NULL` refers to a record that has not been freed. -/
def NoDangling (evLoop : EventLoop) : Prop :=
  ∀ slot client, slot < hashSlotNum → evLoop.server.httpReqDict slot = some client →
    (evLoop.reqs client).isSome = true

/-- The slot of an id is `NULL` or refers to a record that has not been freed. -/
def LiveSlot (evLoop : EventLoop) (reqId : Int) : Prop :=
  ∀ client, replyClient evLoop reqId = some client → (evLoop.reqs client).isSome = true

lemma tmod_hashSlotNum {reqId : Int} (h : 0 ≤ reqId) :
    reqId.tmod hashSlotNum = ((reqId.toNat % hashSlotNum : Nat) : Int) := by
  obtain ⟨n, rfl⟩ := Int.eq_ofNat_of_zero_le h
  rw [Int.tmod_eq_emod_of_nonneg (by omega)]
  simp

lemma replyClient_of_nonneg (evLoop : EventLoop) {reqId : Int} (h : 0 ≤ reqId) :
    replyClient evLoop reqId = evLoop.server.httpReqDict (reqId.toNat % hashSlotNum) := by
  rw [replyClient, tmod_hashSlotNum h, Int.toNat_natCast]

lemma NoDangling.liveSlot {evLoop : EventLoop} (h : NoDangling evLoop) {reqId : Int}
    (hid : 0 ≤ reqId) : LiveSlot evLoop reqId := by
  intro client hclient
  rw [replyClient_of_nonneg evLoop hid] at hclient
  exact h _ client (Nat.mod_lt _ (by decide)) hclient

section

variable {lb lb' : LoadBalancer} {evLoop evLoop' : EventLoop} {which : Nat}
  {reqId lengthBody now : Int} {payload : List UInt8}

theorem handleReply_cases
    (h : handleReply lb evLoop which reqId lengthBody now payload = some (lb', evLoop')) :
    (replyClient evLoop reqId = none ∧ lb' = lb.addRemain which (-1) ∧ evLoop' = evLoop) ∨
    ∃ client httpConn, replyClient evLoop reqId = some client ∧
      evLoop.reqs client = some httpConn ∧
      lb' = lb.finishEndpointTaskTimeBased which httpConn.tsReqBeg now ∧
      evLoop' = { evLoop with reqs := Function.update evLoop.reqs client (some { httpConn with
        responsePackage := httpConn.responsePackage.write 0 payload }) } := by
  unfold handleReply at h
  simp only at h
  split at h
  · simp at h
  rw [replyClient]
  split at h
  · next hnull =>
    simp only [Option.some.injEq, Prod.mk.injEq] at h
    exact .inl ⟨hnull, h.1.symm, h.2.symm⟩
  · next client hclient =>
    split at h
    · simp at h
    · next httpConn hconn =>
      split at h
      · simp at h
      simp only [Option.some.injEq, Prod.mk.injEq] at h
      exact .inr ⟨client, httpConn, hclient, hconn, h.1.symm, h.2.symm⟩

lemma server_handleReply
    (h : handleReply lb evLoop which reqId lengthBody now payload = some (lb', evLoop')) :
    evLoop'.server = evLoop.server := by
  rcases handleReply_cases h with ⟨-, -, rfl⟩ | ⟨_, _, -, -, -, rfl⟩ <;> rfl

lemma numOfEnds_handleReply
    (h : handleReply lb evLoop which reqId lengthBody now payload = some (lb', evLoop')) :
    lb'.numOfEnds = lb.numOfEnds := by
  rcases handleReply_cases h with ⟨-, rfl, -⟩ | ⟨_, _, -, -, rfl, -⟩ <;> simp

lemma remain_handleReply
    (h : handleReply lb evLoop which reqId lengthBody now payload = some (lb', evLoop')) (i : Nat) :
    lb'.remain i = lb.remain i + if i = which then -1 else 0 := by
  rcases handleReply_cases h with ⟨-, rfl, -⟩ | ⟨_, _, -, -, rfl, -⟩
  · exact LoadBalancer.remain_addRemain lb which i (-1)
  · exact LoadBalancer.remain_finish lb which i _ _

lemma isSome_reqs_handleReply
    (h : handleReply lb evLoop which reqId lengthBody now payload = some (lb', evLoop'))
    (client : Nat) : (evLoop'.reqs client).isSome = (evLoop.reqs client).isSome := by
  rcases handleReply_cases h with ⟨-, -, rfl⟩ | ⟨owner, httpConn, -, hconn, -, rfl⟩
  · rfl
  · by_cases hc : client = owner
    · subst hc
      simp [hconn]
    · simp [hc]

lemma noDangling_handleReply
    (h : handleReply lb evLoop which reqId lengthBody now payload = some (lb', evLoop'))
    (hinv : NoDangling evLoop) : NoDangling evLoop' := by
  intro slot client hslot hclient
  rw [server_handleReply h] at hclient
  rw [isSome_reqs_handleReply h]
  exact hinv slot client hslot hclient

lemma liveSlot_handleReply
    (h : handleReply lb evLoop which reqId lengthBody now payload = some (lb', evLoop'))
    {id : Int} (hlive : LiveSlot evLoop id) : LiveSlot evLoop' id := by
  intro client hclient
  rw [replyClient, server_handleReply h] at hclient
  rw [isSome_reqs_handleReply h]
  exact hlive client hclient

theorem handleReply_returns (hlive : LiveSlot evLoop reqId) (hid : 0 ≤ reqId)
    (hl : 0 ≤ lengthBody) (hr : lengthBody ≤ defaultPackageSize) :
    ∃ s, handleReply lb evLoop which reqId lengthBody now payload = some s := by
  have hslot := tmod_hashSlotNum hid
  rw [LiveSlot, replyClient_of_nonneg evLoop hid] at hlive
  unfold handleReply
  simp only [hslot, Int.toNat_natCast]
  rw [if_neg (by omega)]
  cases hclient : evLoop.server.httpReqDict (reqId.toNat % hashSlotNum) with
  | none => exact ⟨_, rfl⟩
  | some client =>
    obtain ⟨httpConn, hconn⟩ := Option.isSome_iff_exists.mp (hlive client hclient)
    simp only [hconn]
    rw [if_neg (by omega)]
    exact ⟨_, rfl⟩

end

end MeshAgent.Proofs
