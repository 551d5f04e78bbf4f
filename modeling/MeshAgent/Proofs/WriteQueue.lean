import MeshAgent.Foundations.SharedBuffer
import MeshAgent.Model.WriteQueue
import MeshAgent.Proofs.ConsumerSteps
import MeshAgent.Proofs.RequestDispatch

/-!
# The bytes of a queued write

A frame stays in `raw_array` and a payload in `response_package` until the write is
complete. Both are used again at once: the next bytes of the client are stored from the
beginning of `raw_array`, and the next reply from the beginning of `response_package`.
-/

namespace MeshAgent.Proofs
open MeshAgent.Foundations MeshAgent.Model

/-- Bytes are still to be taken out of the buffer. -/
def Unfinished (q : UvWrite) : Prop := q.status = .queued ∧ q.sent.length < q.built.length

instance : DecidablePred Unfinished := fun _ => inferInstanceAs (Decidable (_ ∧ _))

/-- What an event stores or frees is not needed by the write any more. -/
def SparesWrite (loop : WorkLoop) (q : UvWrite) : Event → Prop
  | .clientRead client chunk _ _ =>
    q.client = client → q.buffer ≠ .responsePackage → ∀ httpReq ∈ loop.evLoop.reqs client,
      (httpReq.rawArraySize : Int) + chunk.length ≤ q.offset + q.sent.length
  | .replyPass _ =>
    q.buffer = .responsePackage → ∀ which ∈ loop.reading,
      let server := loop.evLoop.server.endpointServers which
      ∀ frame ∈ bufferedFrame 12 0 server.rawArray server.sizeOfRawArray,
        replyClient loop.evLoop (bytes8ToLong server.rawArray 4) = some q.client →
          frame.1.toNat ≤ q.sent.length
  | .closed client => q.client = client → q.buffer = .responsePackage
  | _ => True

instance (loop : WorkLoop) (q : UvWrite) (e : Event) : Decidable (SparesWrite loop q e) := by
  unfold SparesWrite
  split <;> infer_instance

/-- A client sends further bytes only if they end in front of what is still to be transmitted
of its frames, a reply is handled only if it is not longer than what has been transmitted of
an unfinished reply to the same client, and a record is freed only after its frames have been
transmitted. -/
def WritesApart (s : SendingWorld) (e : Nat × SendEvent) : Prop :=
  match e.2 with
  | .callback event =>
    ∀ q ∈ s.writes e.1, Unfinished q → SparesWrite (s.world.loops e.1) q event
  | _ => True

instance (s : SendingWorld) (e : Nat × SendEvent) : Decidable (WritesApart s e) := by
  unfold WritesApart
  split <;> infer_instance

def SendStepIf (env : Environment) (cond : SendingWorld → Nat × SendEvent → Prop)
    (s : SendingWorld) (e : Nat × SendEvent) (s' : SendingWorld) : Prop :=
  s.step env e = some s' ∧ cond s e

/-- The records have names that have been given out, and a header block that has been found
lies in what has been received. -/
structure RecordsSound (loop : WorkLoop) : Prop where
  named : ∀ client httpReq, loop.evLoop.reqs client = some httpReq → client < loop.accepted
  block : ∀ client httpReq, loop.evLoop.reqs client = some httpReq →
    httpReq.requestLength ≤ httpReq.rawArraySize

section

variable {env : Environment} {startTime : Int} {shared shared' : Shared} {loop loop' : WorkLoop}
  {e : Event} {q : UvWrite}

lemma recordsSound_start (tid : Nat) (raw : Nat → Mem UInt8) :
    RecordsSound (startWorkEventLoop tid raw) where
  named client httpReq h := by simp [startWorkEventLoop] at h
  block client httpReq h := by simp [startWorkEventLoop] at h

lemma requestLength_parsedRequest_le
    (hparse : ∀ bytes, (env.phrParseRequest bytes).ret ≤ bytes.length) (httpReq : HttpReq)
    (nread : Int) (hblock : httpReq.requestLength ≤ httpReq.rawArraySize) :
    (parsedRequest env httpReq nread).1.requestLength ≤
      ((httpReq.rawArraySize + nread.toNat : Nat) : Int) := by
  unfold parsedRequest parseHeader
  split
  · have hret := hparse (httpReq.rawArray.read 0 (httpReq.rawArraySize + nread.toNat))
    rw [Mem.length_read] at hret
    exact hret
  · push_cast
    exact le_trans hblock (by omega)

/-- What a read stores in the record of its client, and what it does not change. -/
structure RecordRead (httpReq : HttpReq) (chunk : List UInt8) (httpReq' : HttpReq) : Prop where
  rawArray : SameFrom ((httpReq.rawArraySize : Int) + chunk.length) httpReq.rawArray
    httpReq'.rawArray
  responsePackage : httpReq'.responsePackage = httpReq.responsePackage
  block : httpReq'.requestLength ≤ httpReq'.rawArraySize

/-- The header of a frame is stored over the end of the header block, which has been
received. -/
lemma recordRead_clientRead (hparse : ∀ bytes, (env.phrParseRequest bytes).ret ≤ bytes.length)
    (hsound : RecordsSound loop) {client : Nat} {chunk : List UInt8} {stale now : Int}
    (h : loop.clientRead env shared client chunk stale now = some (shared', loop')) :
    ∃ httpReq httpReq', loop.evLoop.reqs client = some httpReq ∧
      RecordRead httpReq chunk httpReq' ∧
      loop'.evLoop.reqs = Function.update loop.evLoop.reqs client (some httpReq') ∧
      loop'.accepted = loop.accepted := by
  rw [WorkLoop.clientRead] at h
  split at h
  · simp at h
  next httpReq hrecord =>
  split at h
  · simp at h
  next hguard =>
  have hn : (0 : Int) < chunk.length := by
    simp only [not_or] at hguard
    have := List.length_pos_iff.mpr hguard.2.2.1
    omega
  have hblock := requestLength_parsedRequest_le hparse (httpReq.store chunk) chunk.length
    (hsound.block client httpReq hrecord)
  have hchunk : SameFrom ((httpReq.rawArraySize : Int) + chunk.length) httpReq.rawArray
      (httpReq.store chunk).rawArray := SameFrom.write _ (le_refl _)
  split at h
  · next httpReq' hread =>
    simp only [Option.some.injEq, Prod.mk.injEq] at h
    obtain ⟨-, rfl⟩ := h
    obtain ⟨hraw, hresponse, hsize, -, hlength⟩ := cReadConnectionData_wait hn hread
    refine ⟨httpReq, httpReq', hrecord, ⟨?_, hresponse, ?_⟩, rfl, rfl⟩
    · rw [hraw]
      exact hchunk
    · rw [hlength, hsize]
      exact hblock
  · next d lb server httpReq' hread =>
    simp only [Option.some.injEq, Prod.mk.injEq] at h
    obtain ⟨-, rfl⟩ := h
    obtain ⟨header, n, hheader, hraw, hresponse, -⟩ := cReadConnectionData_frame hread
    obtain ⟨-, -, -, -, -, -, -, hlength, hsize, -⟩ := cReadConnectionData_dispatch hread
    refine ⟨httpReq, httpReq', hrecord, ⟨?_, hresponse, ?_⟩, rfl, rfl⟩
    · rw [hraw]
      refine hchunk.trans (SameFrom.write _ ?_)
      rw [hheader]
      simp only [Int.toNat_natCast, HttpReq.store] at hblock ⊢
      push_cast at hblock ⊢
      omega
    · rw [hlength, hsize]
      decide
  · simp at h
  · simp at h

/-- What a callback does to the records. -/
inductive RecordStep (loop : WorkLoop) : Event → WorkLoop → Prop
  | unchanged {e : Event} {loop' : WorkLoop} (reqs : loop'.evLoop.reqs = loop.evLoop.reqs)
      (accepted : loop'.accepted = loop.accepted) : RecordStep loop e loop'
  | admitted {e : Event} {loop' : WorkLoop} {httpReq : HttpReq}
      (reqs : loop'.evLoop.reqs = Function.update loop.evLoop.reqs loop.accepted (some httpReq))
      (accepted : loop'.accepted = loop.accepted + 1)
      (block : httpReq.requestLength ≤ httpReq.rawArraySize) : RecordStep loop e loop'
  | read {client : Nat} {chunk : List UInt8} {stale now : Int} {loop' : WorkLoop}
      {httpReq httpReq' : HttpReq} (record : loop.evLoop.reqs client = some httpReq)
      (reqs : loop'.evLoop.reqs = Function.update loop.evLoop.reqs client (some httpReq'))
      (accepted : loop'.accepted = loop.accepted) (read : RecordRead httpReq chunk httpReq') :
      RecordStep loop (.clientRead client chunk stale now) loop'
  | replied {which client : Nat} {now lengthBody lastLength : Int} {loop' : WorkLoop}
      {httpReq : HttpReq} {payload : List UInt8} (reading : loop.reading = some which)
      (buffered : bufferedFrame 12 0 (loop.evLoop.server.endpointServers which).rawArray
        (loop.evLoop.server.endpointServers which).sizeOfRawArray = some (lengthBody, lastLength))
      (found : replyClient loop.evLoop
        (bytes8ToLong (loop.evLoop.server.endpointServers which).rawArray 4) = some client)
      (length : payload.length = lengthBody.toNat)
      (record : loop.evLoop.reqs client = some httpReq)
      (reqs : loop'.evLoop.reqs = Function.update loop.evLoop.reqs client (some { httpReq with
        responsePackage := httpReq.responsePackage.write 0 payload }))
      (accepted : loop'.accepted = loop.accepted) : RecordStep loop (.replyPass now) loop'
  | freed {client : Nat} {loop' : WorkLoop} (closing : loop.closing client = true)
      (reqs : loop'.evLoop.reqs = Function.update loop.evLoop.reqs client none)
      (accepted : loop'.accepted = loop.accepted) : RecordStep loop (.closed client) loop'

lemma recordStep_of_step (hparse : ∀ bytes, (env.phrParseRequest bytes).ret ≤ bytes.length)
    (hsound : RecordsSound loop) (h : loop.step env startTime shared e = some (shared', loop')) :
    RecordStep loop e loop' := by
  have hread : ∀ client chunk stale now,
      loop.clientRead env shared client chunk stale now = some (shared', loop') →
      RecordStep loop (.clientRead client chunk stale now) loop' := by
    intro client chunk stale now hcall
    obtain ⟨httpReq, httpReq', hrecord, hchange, hreqs, haccepted⟩ :=
      recordRead_clientRead hparse hsound hcall
    exact .read hrecord hreqs haccepted hchange
  cases loopStep_of_step h with
  | admitted => exact .admitted rfl rfl (by simp [initHttpReq])
  | wait => exact hread _ _ _ _ h
  | dispatch => exact hread _ _ _ _ h
  | closed closing => exact .freed closing rfl rfl
  | handled reading buffered reply =>
    rcases handleReply_cases reply with ⟨-, -, rfl⟩ | ⟨client, httpReq, hfound, hrecord, -, rfl⟩
    · exact .unchanged rfl rfl
    · exact .replied reading buffered hfound (Mem.length_read _ _ _) hrecord rfl rfl
  | refuse => exact .unchanged rfl rfl
  | clientEnd => exact .unchanged rfl rfl
  | answer => exact .unchanged rfl rfl
  | replyRead => exact .unchanged rfl rfl
  | returned => exact .unchanged rfl rfl
  | providerEnd => exact .unchanged rfl rfl
  | reconnect => exact .unchanged rfl rfl
  | connected => exact .unchanged rfl rfl
  | connectFailed => exact .unchanged rfl rfl

lemma RecordsSound.update (h : RecordsSound loop) {k : Nat} {record : Option HttpReq}
    (hreqs : loop'.evLoop.reqs = Function.update loop.evLoop.reqs k record)
    (haccepted : loop.accepted ≤ loop'.accepted)
    (hrecord : ∀ httpReq, record = some httpReq →
      k < loop'.accepted ∧ httpReq.requestLength ≤ httpReq.rawArraySize) : RecordsSound loop' := by
  constructor
  · rw [hreqs]
    apply (Function.forall_update_iff loop.evLoop.reqs fun client record =>
      ∀ httpReq, record = some httpReq → client < loop'.accepted).mpr
    refine ⟨fun httpReq hnew => (hrecord httpReq hnew).1, ?_⟩
    intro client _ httpReq hold
    exact lt_of_lt_of_le (h.named client httpReq hold) haccepted
  · rw [hreqs]
    apply (Function.forall_update_iff loop.evLoop.reqs fun _ record =>
      ∀ httpReq, record = some httpReq → httpReq.requestLength ≤ httpReq.rawArraySize).mpr
    exact ⟨fun httpReq hnew => (hrecord httpReq hnew).2, fun client _ => h.block client⟩

lemma recordsSound_step (h : RecordsSound loop) (hstep : RecordStep loop e loop') :
    RecordsSound loop' := by
  cases hstep with
  | unchanged reqs accepted =>
    exact ⟨by rw [reqs, accepted]; exact h.named, by rw [reqs]; exact h.block⟩
  | admitted reqs accepted block =>
    apply h.update reqs (by omega)
    rintro _ ⟨⟩
    exact ⟨by omega, block⟩
  | read record reqs accepted read =>
    have hnamed := h.named _ _ record
    apply h.update reqs (by omega)
    rintro _ ⟨⟩
    exact ⟨by omega, read.block⟩
  | replied _ _ _ _ record reqs accepted =>
    have hnamed := h.named _ _ record
    have hblock := h.block _ _ record
    apply h.update reqs (by omega)
    rintro _ ⟨⟩
    exact ⟨by omega, hblock⟩
  | freed _ reqs accepted =>
    apply h.update reqs (by omega)
    rintro _ ⟨⟩

/-- What has been transmitted of a write is as built, and so is the part of the buffer that
is still to be transmitted. -/
structure Kept (loop : WorkLoop) (q : UvWrite) : Prop where
  sent : q.sent <+: q.built
  complete : q.status = .written → q.sent = q.built
  rest : Unfinished q → ∃ httpReq, loop.evLoop.reqs q.client = some httpReq ∧
    Intact (q.memory httpReq) q.offset q.built q.sent
  active : Unfinished q → q.buffer = .responsePackage → loop.closing q.client = false

/-- The record of an unfinished write survives a step that spares the write, with everything
that is still to be transmitted. -/
lemma exists_record_step (hsound : RecordsSound loop) (hstep : RecordStep loop e loop')
    (hkept : Kept loop q) (hun : Unfinished q) (hspares : SparesWrite loop q e) :
    ∃ httpReq, loop'.evLoop.reqs q.client = some httpReq ∧
      Intact (q.memory httpReq) q.offset q.built q.sent := by
  obtain ⟨httpReq, hrecord, hintact⟩ := hkept.rest hun
  have hother : ∀ {k : Nat} {record : Option HttpReq},
      loop'.evLoop.reqs = Function.update loop.evLoop.reqs k record → q.client ≠ k →
      ∃ httpReq, loop'.evLoop.reqs q.client = some httpReq ∧
        Intact (q.memory httpReq) q.offset q.built q.sent := by
    intro k record hreqs hne
    exact ⟨httpReq, by rw [hreqs, Function.update_of_ne hne]; exact hrecord, hintact⟩
  cases hstep with
  | unchanged reqs => exact ⟨httpReq, by rw [reqs]; exact hrecord, hintact⟩
  | admitted reqs =>
    have hnamed := hsound.named _ _ hrecord
    exact hother reqs (by omega)
  | @read client chunk _ _ _ before after record reqs _ read =>
    by_cases hc : q.client = client
    · refine ⟨after, by rw [reqs, hc, Function.update_self], hintact.of_sameFrom ?_⟩
      rw [hc, record, Option.some.injEq] at hrecord
      subst hrecord
      unfold UvWrite.memory
      split
      · next hbuffer =>
        exact read.rawArray.mono (hspares hc (by simp [hbuffer]) _ record)
      · rw [read.responsePackage]
        exact SameFrom.refl _ _
    · exact hother reqs hc
  | @replied which client _ _ _ _ before _ reading buffered found length record reqs =>
    by_cases hc : q.client = client
    · refine ⟨_, by rw [reqs, hc, Function.update_self], hintact.of_sameFrom ?_⟩
      rw [hc, record, Option.some.injEq] at hrecord
      subst hrecord
      unfold UvWrite.memory UvWrite.offset
      split
      · exact SameFrom.refl _ _
      · next hbuffer =>
        have hlen := hspares hbuffer which reading _ buffered (by rw [hc]; exact found)
        exact SameFrom.write _ (by omega)
    · exact hother reqs hc
  | @freed client _ closing reqs =>
    have hc : q.client ≠ client := by
      intro hc
      have hactive := hkept.active hun (hspares hc)
      rw [hc, closing] at hactive
      exact absurd hactive (by simp)
    exact hother reqs hc

lemma closing_step (hstep : LoopStep env startTime shared loop e shared' loop')
    (hbuffer : q.buffer = .responsePackage) (hfails : q.failsAt e = false)
    (hactive : loop.closing q.client = false) : loop'.closing q.client = false := by
  cases hstep with
  | @clientEnd client =>
    have hc : q.client ≠ client := by simpa [UvWrite.failsAt, hbuffer] using hfails
    simp only [Function.update_of_ne hc, hactive]
  | @closed client =>
    by_cases hc : q.client = client
    · simp only [hc, Function.update_self]
    · simp only [Function.update_of_ne hc, hactive]
  | _ => exact hactive

lemma Kept.afterCallback (hparse : ∀ bytes, (env.phrParseRequest bytes).ret ≤ bytes.length)
    (hsound : RecordsSound loop) (hstep : loop.step env startTime shared e = some (shared', loop'))
    (hkept : Kept loop q) (hspares : Unfinished q → SparesWrite loop q e) :
    Kept loop' (q.afterCallback e) := by
  unfold UvWrite.afterCallback
  split
  · next hfails =>
    exact ⟨hkept.sent, by simp, by simp [Unfinished], by simp [Unfinished]⟩
  · next hfails =>
    refine ⟨hkept.sent, hkept.complete, ?_, ?_⟩
    · intro hun
      exact exists_record_step hsound (recordStep_of_step hparse hsound hstep) hkept hun
        (hspares hun)
    · intro hun hbuffer
      have hstays : q.failsAt e = false := by simpa [hun.1] using hfails
      exact closing_step (loopStep_of_step hstep) hbuffer hstays (hkept.active hun hbuffer)

lemma Kept.start {httpReq : HttpReq} (hsent : q.sent = []) (hqueued : q.status = .queued)
    (hrecord : loop.evLoop.reqs q.client = some httpReq)
    (hbuilt : (q.memory httpReq).read q.offset q.built.length = q.built)
    (hactive : q.buffer = .responsePackage → loop.closing q.client = false) : Kept loop q where
  sent := by rw [hsent]; exact List.nil_prefix
  complete := by simp [hqueued]
  rest _ := ⟨httpReq, hrecord, by rw [hsent]; exact Intact.start hbuilt⟩
  active _ := hactive

lemma kept_newWrites_clientRead {client : Nat} {chunk : List UInt8} {stale now : Int}
    (hstep : loop.clientRead env shared client chunk stale now = some (shared', loop'))
    (hq : q ∈ newWrites env shared loop (.clientRead client chunk stale now)) : Kept loop' q := by
  rw [WorkLoop.clientRead] at hstep
  rw [newWrites] at hq
  split at hstep
  · simp at hstep
  next httpReq hrecord =>
  simp only [hrecord] at hq
  split at hstep
  · simp at hstep
  split at hstep
  · next hread => simp [hread] at hq
  · next d lb server httpReq' hread =>
    simp only [Option.some.injEq, Prod.mk.injEq] at hstep
    obtain ⟨-, rfl⟩ := hstep
    obtain ⟨header, n, -, -, -, hbytes⟩ := cReadConnectionData_frame hread
    simp only [hread] at hq
    split at hq
    · simp at hq
    rw [List.mem_singleton] at hq
    subst hq
    refine Kept.start rfl rfl (Function.update_self _ _ _) ?_ (by simp)
    · rw [hbytes, Mem.length_read]
      rfl
  · next hread => simp [hread] at hq
  · next hread => simp [hread] at hq

lemma kept_newWrites_replyPass {now : Int}
    (hstep : loop.replyPass shared now = some (shared', loop'))
    (hq : q ∈ newWrites env shared loop (.replyPass now)) : Kept loop' q := by
  rw [WorkLoop.replyPass] at hstep
  rw [newWrites] at hq
  split at hstep
  · simp at hstep
  next which hreading =>
  simp only [hreading] at hq
  split at hstep
  · next hpass => simp [hpass] at hq
  · simp at hstep
  · next reply s hpass =>
    simp only [Option.some.injEq, Prod.mk.injEq] at hstep
    obtain ⟨-, rfl⟩ := hstep
    simp only [hpass] at hq
    split at hq
    · simp at hq
    next client hclient =>
    split at hq
    · simp at hq
    next hactive =>
    rw [List.mem_singleton] at hq
    subst hq
    obtain ⟨⟨lengthBody, lastLength, hfound, -, hpayload⟩, hid, howner⟩ := emit_cases hpass
    obtain ⟨lengthBody', lastLength', lb, evLoop, hfound', hreply, rfl⟩ :=
      cReadFromProvideAgentsPass_emit hpass
    rw [hfound, Option.some.injEq, Prod.mk.injEq] at hfound'
    rw [hclient, hid] at howner
    rcases handleReply_cases hreply with ⟨hnone, -, -⟩ | ⟨client', httpReq, hfound, hrecord, -, rfl⟩
    · rw [hnone] at howner
      exact absurd howner (by simp)
    · rw [hfound, Option.some.injEq] at howner
      subst howner
      refine Kept.start rfl rfl (Function.update_self _ _ _) ?_ (fun _ => ?_)
      · rw [hpayload, hfound'.1]
        exact Mem.read_write_self _ _ _ _ rfl
      · exact Bool.eq_false_iff.mpr hactive

lemma kept_newWrites (hstep : loop.step env startTime shared e = some (shared', loop'))
    (hq : q ∈ newWrites env shared loop e) : Kept loop' q := by
  cases e with
  | clientRead => exact kept_newWrites_clientRead hstep hq
  | replyPass => exact kept_newWrites_replyPass hstep hq
  | _ => simp [newWrites] at hq

lemma Kept.transmit (h : Kept loop q) (hqueued : q.status = .queued) (freed : Mem UInt8)
    {count : Nat} (hcount : q.sent.length + count ≤ q.built.length) :
    Kept loop { q with sent := q.sent ++ q.nextBytes loop freed count } := by
  by_cases hun : Unfinished q
  · obtain ⟨httpReq, hrecord, hintact⟩ := h.rest hun
    have hnext : q.nextBytes loop freed count =
        (q.memory httpReq).read (q.offset + (q.sent.length : Int)) count := by
      simp only [UvWrite.nextBytes, hrecord]
    have hafter := hintact.transmit hcount
    rw [← hnext] at hafter
    exact ⟨hafter.isPrefix, by simp [hqueued], fun _ => ⟨httpReq, hrecord, hafter⟩,
      fun _ => h.active hun⟩
  · -- all bytes have been transmitted before
    have hdone : ¬ q.sent.length < q.built.length := fun hlt => hun ⟨hqueued, hlt⟩
    obtain rfl : count = 0 := by omega
    simpa [UvWrite.nextBytes] using h

lemma Kept.written (h : Kept loop q) (hlen : q.sent.length = q.built.length) :
    Kept loop { q with status := .written } where
  sent := h.sent
  complete _ := h.sent.eq_of_length hlen
  rest hun := absurd hun.1 (by simp)
  active hun := absurd hun.1 (by simp)

end

/-- All records and writes of all loops. -/
def SendingSound (s : SendingWorld) : Prop :=
  ∀ tid, tid < eventLoopNum →
    RecordsSound (s.world.loops tid) ∧ ∀ q ∈ s.writes tid, Kept (s.world.loops tid) q

section

variable {env : Environment} {s s' : SendingWorld} {tid : Nat}

lemma sendingSound_start (n : Nat) (startTime : Int) (raw : Nat → Nat → Mem UInt8) :
    SendingSound (startSending (consumer n startTime raw)) := by
  intro tid _
  exact ⟨recordsSound_start tid _, by simp [startSending]⟩

lemma sendingSound_callback (hparse : ∀ bytes, (env.phrParseRequest bytes).ret ≤ bytes.length)
    (h : SendingSound s) {e : Event}
    (hspares : ∀ q ∈ s.writes tid, Unfinished q → SparesWrite (s.world.loops tid) q e)
    (hstep : s.callback env tid e = some s') : SendingSound s' := by
  unfold SendingWorld.callback at hstep
  simp only at hstep
  split at hstep
  · simp at hstep
  obtain ⟨world, hworld, rfl⟩ := Option.map_eq_some_iff.mp hstep
  unfold World.step at hworld
  split at hworld
  · next htid =>
    obtain ⟨⟨shared, loop⟩, hloop, rfl⟩ := Option.map_eq_some_iff.mp hworld
    obtain ⟨hsound, hkept⟩ := h tid htid
    intro k hk
    by_cases hkt : k = tid
    · subst hkt
      simp only [Function.update_self]
      refine ⟨recordsSound_step hsound (recordStep_of_step hparse hsound hloop), ?_⟩
      intro q hq
      rcases List.mem_append.mp hq with hold | hnew
      · obtain ⟨old, hmem, rfl⟩ := List.mem_map.mp hold
        exact (hkept old hmem).afterCallback hparse hsound hloop (hspares old hmem)
      · exact kept_newWrites hloop hnew
    · simp only [Function.update_of_ne hkt]
      exact h k hk
  · simp at hworld

lemma SendingSound.set (h : SendingSound s) {i : Nat} {q : UvWrite}
    (hq : Kept (s.world.loops tid) q) :
    SendingSound { s with writes := Function.update s.writes tid ((s.writes tid).set i q) } := by
  refine (Function.forall_update_iff s.writes fun tid writes => tid < eventLoopNum →
    RecordsSound (s.world.loops tid) ∧ ∀ q ∈ writes, Kept (s.world.loops tid) q).mpr ⟨?_, ?_⟩
  · intro htid
    refine ⟨(h tid htid).1, ?_⟩
    intro q' hq'
    rcases List.mem_or_eq_of_mem_set hq' with hold | rfl
    · exact (h tid htid).2 q' hold
    · exact hq
  · exact fun k _ hk => h k hk

lemma sendingSound_transmit (h : SendingSound s) (htid : tid < eventLoopNum) {i count : Nat}
    {freed : Mem UInt8} (hstep : s.transmit tid i count freed = some s') : SendingSound s' := by
  unfold SendingWorld.transmit at hstep
  split at hstep
  · simp at hstep
  next q hq =>
  simp only at hstep
  split at hstep
  · simp at hstep
  next hguard =>
  simp only [not_or, not_not, Nat.not_lt] at hguard
  simp only [Option.some.injEq] at hstep
  subst hstep
  have hkept := (h tid htid).2 q (List.mem_of_getElem? hq)
  exact h.set (hkept.transmit hguard.1 freed hguard.2.2)

lemma sendingSound_written (h : SendingSound s) (htid : tid < eventLoopNum) {i : Nat}
    (hstep : s.written tid i = some s') : SendingSound s' := by
  unfold SendingWorld.written at hstep
  split at hstep
  · simp at hstep
  next q hq =>
  split at hstep
  · simp at hstep
  next hguard =>
  simp only [not_or, not_not] at hguard
  simp only [Option.some.injEq] at hstep
  subst hstep
  exact h.set (((h tid htid).2 q (List.mem_of_getElem? hq)).written hguard.2)

lemma sendingSound_step (hparse : ∀ bytes, (env.phrParseRequest bytes).ret ≤ bytes.length)
    (h : SendingSound s) {e : Nat × SendEvent} (hstep : SendStepIf env WritesApart s e s') :
    SendingSound s' := by
  obtain ⟨tid, event⟩ := e
  obtain ⟨hstep, hcond⟩ := hstep
  unfold SendingWorld.step at hstep
  split at hstep
  · next htid =>
    cases event with
    | callback e => exact sendingSound_callback hparse h hcond hstep
    | transmit i count freed => exact sendingSound_transmit h htid hstep
    | written i => exact sendingSound_written h htid hstep
  · simp at hstep

end

/-- In every run in which nothing is stored over, or freed, that is still to be transmitted,
the bytes transmitted for every request and every reply are as built, in every state. -/
theorem queued_as_built (env : Environment)
    (hparse : ∀ bytes, (env.phrParseRequest bytes).ret ≤ bytes.length) (n : Nat) (startTime : Int)
    (raw : Nat → Nat → Mem UInt8) (es : List (Nat × SendEvent)) (s : SendingWorld)
    (h : Run (SendStepIf env WritesApart) (startSending (consumer n startTime raw)) es s)
    (tid : Nat) (htid : tid < eventLoopNum) (q : UvWrite) (hq : q ∈ s.writes tid) :
    q.sent <+: q.built ∧ (q.status = .written → q.sent = q.built) := by
  have hsound : SendingSound s :=
    h.invariant (fun s e s' hs hstep => sendingSound_step hparse hs hstep)
      (sendingSound_start n startTime raw)
  have hkept := (hsound tid htid).2 q hq
  exact ⟨hkept.sent, hkept.complete⟩

/-! ### One client and one endpoint -/

lemma ret_postEnvironment_le (contentLength : List Char) (bytes : List UInt8) :
    ((postEnvironment contentLength).phrParseRequest bytes).ret ≤ bytes.length := by
  unfold postEnvironment fixedHeaderParser
  simp only
  split
  · next hpre => exact Int.ofNat_le.mpr (List.isPrefixOf_iff_prefix.mp hpre).length_le
  · exact le_trans (by decide) (Int.natCast_nonneg _)

def shortRequest (value : UInt8) : List UInt8 := postHeader ['3'] ++ [97, 61, value]

def oneClient : List (Nat × SendEvent) :=
  [(0, .callback (.connected 0)), (0, .callback (.accept (fun _ => 0) (fun _ => 0) 0 0 0))]

/-- The request is transmitted before the next thing happens. -/
def requestSent (i : Nat) (value : UInt8) : List (Nat × SendEvent) :=
  [(0, .callback (.clientRead 0 (shortRequest value) 0 0)), (0, .transmit i 15 (fun _ => 0)),
    (0, .written i)]

def answeredRequest : List (Nat × SendEvent) :=
  oneClient ++ requestSent 0 98 ++
    [(0, .callback (.answer 0 0 [65])), (0, .callback (.replyRead 0 (replyFrame 0 [65]))),
      (0, .callback (.replyPass 0)), (0, .transmit 1 1 (fun _ => 0)), (0, .written 1)]

/-- The client sends its next request while the endpoint takes no bytes. -/
def overtakenRequest : List (Nat × SendEvent) :=
  oneClient ++
    [(0, .callback (.clientRead 0 (shortRequest 98) 0 0)),
      (0, .callback (.clientRead 0 (shortRequest 99) 0 0)), (0, .transmit 0 15 (fun _ => 0)),
      (0, .written 0)]

/-- Two answers arrive while the client takes no bytes. -/
def overtakenReply : List (Nat × SendEvent) :=
  oneClient ++ requestSent 0 98 ++ requestSent 1 99 ++
    [(0, .callback (.answer 0 0 [65])), (0, .callback (.answer 0 2 [66])),
      (0, .callback (.replyRead 0 (replyFrame 0 [65] ++ replyFrame 2 [66]))),
      (0, .callback (.replyPass 0)), (0, .callback (.replyPass 0)), (0, .callback (.replyPass 0)),
      (0, .transmit 2 1 (fun _ => 0)), (0, .written 2)]

/-- The client leaves while the endpoint takes no bytes. -/
def freedRequest : List (Nat × SendEvent) :=
  oneClient ++
    [(0, .callback (.clientRead 0 (shortRequest 98) 0 0)), (0, .callback (.clientEnd 0 uvEof)),
      (0, .callback (.closed 0)), (0, .transmit 0 15 (fun _ => 1)), (0, .written 0)]

/-- The steps that meet a condition, computed. -/
def sendStepIf (cond : SendingWorld → Nat × SendEvent → Prop) [∀ s e, Decidable (cond s e)]
    (s : SendingWorld) (e : Nat × SendEvent) : Option SendingWorld :=
  if cond s e then s.step (postEnvironment ['3']) e else none

lemma exists_write (cond : SendingWorld → Nat × SendEvent → Prop) [∀ s e, Decidable (cond s e)]
    (es : List (Nat × SendEvent)) (i : Nat) (built sent : List UInt8)
    (h : ((es.foldlM (sendStepIf cond) (startSending (consumer 1 0 (fun _ _ _ => 0)))).bind
      fun s => (s.writes 0)[i]?.map fun q => (q.built, q.sent, q.status)) =
        some (built, sent, .written)) :
    ∃ s q, Run (SendStepIf (postEnvironment ['3']) cond)
        (startSending (consumer 1 0 (fun _ _ _ => 0))) es s ∧
      q ∈ s.writes 0 ∧ q.status = .written ∧ q.built = built ∧ q.sent = sent := by
  obtain ⟨s, hfold, hwrite⟩ := Option.bind_eq_some_iff.mp h
  obtain ⟨q, hq, hvalue⟩ := Option.map_eq_some_iff.mp hwrite
  simp only [Prod.mk.injEq] at hvalue
  refine ⟨s, q, .of_foldlM ?_ hfold, List.mem_of_getElem? hq, hvalue.2.2, hvalue.1, hvalue.2.1⟩
  intro s e t hstep
  unfold sendStepIf at hstep
  split at hstep
  · next hcond => exact ⟨hstep, hcond⟩
  · simp at hstep

/-- One request and its answer. -/
theorem queued_as_built_answered :
    ∃ s q, Run (SendStepIf (postEnvironment ['3']) WritesApart)
        (startSending (consumer 1 0 (fun _ _ _ => 0))) answeredRequest s ∧
      q ∈ s.writes 0 ∧ q.built = [65] ∧ q.sent = q.built := by
  obtain ⟨s, q, hrun, hq, hwritten, hbuilt, -⟩ :=
    exists_write WritesApart answeredRequest 1 [65] [65] (by decide +kernel)
  exact ⟨s, q, hrun, hq, hbuilt, (queued_as_built (postEnvironment ['3'])
    (ret_postEnvironment_le ['3']) 1 0 _ _ s hrun 0 (by decide) q hq).2 hwritten⟩

/-- In this run a write is completed that has transmitted other bytes than were built. -/
def TransmitsOther (es : List (Nat × SendEvent)) : Prop :=
  ∃ s q, Run (SendStepIf (postEnvironment ['3']) (fun _ _ => True))
      (startSending (consumer 1 0 (fun _ _ _ => 0))) es s ∧
    q ∈ s.writes 0 ∧ q.status = .written ∧ ¬ q.sent <+: q.built

lemma transmitsOther_of_write (es : List (Nat × SendEvent)) (i : Nat) (built sent : List UInt8)
    (h : ((es.foldlM (sendStepIf fun _ _ => True)
      (startSending (consumer 1 0 (fun _ _ _ => 0)))).bind
        fun s => (s.writes 0)[i]?.map fun q => (q.built, q.sent, q.status)) =
          some (built, sent, .written)) (hother : ¬ sent <+: built) : TransmitsOther es := by
  obtain ⟨s, q, hrun, hq, hwritten, hbuilt, hsent⟩ := exists_write _ es i built sent h
  exact ⟨s, q, hrun, hq, hwritten, by rwa [hbuilt, hsent]⟩

/-- In place of the bytes that were built, the frame of the next request, the next reply, or
whatever the allocator has left there is transmitted. -/
theorem queued_overwritten :
    TransmitsOther overtakenRequest ∧ TransmitsOther overtakenReply ∧
      TransmitsOther freedRequest := by
  refine ⟨?_, ?_, ?_⟩
  · exact transmitsOther_of_write _ 0 [0, 0, 0, 3, 0, 0, 0, 0, 0, 0, 0, 0, 97, 61, 98]
      [0, 0, 0, 3, 2, 0, 0, 0, 0, 0, 0, 0, 97, 61, 99] (by decide +kernel) (by decide)
  · exact transmitsOther_of_write _ 2 [65] [66] (by decide +kernel) (by decide)
  · exact transmitsOther_of_write _ 0 [0, 0, 0, 3, 0, 0, 0, 0, 0, 0, 0, 0, 97, 61, 98]
      (List.replicate 15 1) (by decide +kernel) (by decide)

end MeshAgent.Proofs
