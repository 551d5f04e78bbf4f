import MeshAgent.Proofs.SendingQueues

/-!
# Bytes that are taken later

As long as nothing is stored over or freed that is still to be transmitted, the mesh cannot be
told from one whose streams take all bytes at the call of `uv_write`: what has been transmitted
and what is queued is what was written.
-/

namespace MeshAgent.Proofs
open MeshAgent.Foundations MeshAgent.Model

/-- Nothing is stored over, or freed, that is still to be transmitted. -/
def SparesWrites (m : SendingLoop) : SendingEvent → Prop
  | .mesh (.agent e) => ∀ q ∈ m.writes, Unfinished q → SparesWrite m.loop q e
  | _ => True

instance (m : SendingLoop) (e : SendingEvent) : Decidable (SparesWrites m e) := by
  unfold SparesWrites
  split <;> infer_instance

/-- The client has not come yet, or it has a record and has not left. -/
def Stays (loop : WorkLoop) (client : Nat) : Prop :=
  Active loop client ∨ loop.accepted ≤ client

/-- Records and writes are sound, and what has been transmitted to a client and what is queued
for it are its responses, up to some point if it has left. -/
structure WritesHold (m : SendingLoop) : Prop where
  records : RecordsSound m.loop
  kept : ∀ q ∈ m.writes, Kept m.loop q
  pieces : ∀ client, (m.outside.got client).flatten ++ unsentTo (.client client) m.writes <+:
    (responsesTo client m.writes).flatten
  staying : ∀ client, Stays m.loop client →
    (m.outside.got client).flatten ++ unsentTo (.client client) m.writes =
      (responsesTo client m.writes).flatten

section

variable {env : Environment} {startTime : Int} {shared shared' : Shared} {loop loop' : WorkLoop}
  {e : Event} {q q' : UvWrite} {writes new : List UvWrite} {o : Outside} {b : Build} {i : Nat}
  {m m' : SendingLoop}

lemma sendingAgent_eq (h : m.agent env startTime shared e = some (shared', m')) :
    (∀ which reqId payload, e ≠ .answer which reqId payload) ∧
    ∃ loop', m.loop.step env startTime shared e = some (shared', loop') ∧
      m' =
        { loop := loop'
          writes := m.writes.map (UvWrite.afterCallback e) ++ newWrites env shared m.loop e
          outside := (m.outside.noteRequest env shared m.loop e).dropLink e } := by
  rw [SendingLoop.agent.eq_def] at h
  split at h
  · simp at h
  next hother =>
  split at h
  · simp at h
  next shared₁ loop₁ hstep =>
  simp only [Option.some.injEq, Prod.mk.injEq] at h
  obtain ⟨rfl, rfl⟩ := h
  exact ⟨hother, loop₁, hstep, rfl⟩

lemma foldl_dropLink (o : Outside) :
    (newWrites env shared loop e).foldl Outside.copyWrite (o.dropLink e) =
      ((newWrites env shared loop e).foldl Outside.copyWrite o).dropLink e := by
  cases e <;> rfl

lemma asCopied_agent (h : m.agent env startTime shared e = some (shared', m')) :
    (asCopied m).copiedAgent env startTime shared e = some (shared', asCopied m') := by
  obtain ⟨hother, loop', hstep, rfl⟩ := sendingAgent_eq h
  rw [MeshLoop.copiedAgent.eq_def]
  split
  · exact absurd rfl (hother _ _ _)
  · simp only [asCopied, hstep]
    rw [allSent_append fun q hq => newWrites_fresh hq, allSent_dropLink, allSent_noteRequest,
      foldl_dropLink]

lemma stays_step (h : LoopStep env startTime shared loop e shared' loop') {client : Nat}
    (hstays : Stays loop' client) : Stays loop client := by
  rcases hstays with hactive | hnew
  · rcases active_step h hactive with hold | ⟨rfl, -⟩
    · exact .inl hold
    · exact .inr (Nat.le_refl _)
  · exact .inr (Nat.le_trans (record_step h client).1 hnew)

lemma endsStream_of_stays (hsound : RecordsSound loop)
    (h : LoopStep env startTime shared loop e shared' loop') {client : Nat}
    (hstays : Stays loop' client) : endsStream e (.client client) = false := by
  cases h with
  | @clientEnd k _ _ record =>
    by_contra hends
    have hk : client = k := by simpa [endsStream] using hends
    subst hk
    rcases hstays with hactive | hnew
    · simpa using hactive.staying
    · have hold := hsound.named _ _ record
      simp only at hnew
      omega
  | _ => rfl

lemma got_dropLink (o : Outside) (e : Event) : (o.dropLink e).got = o.got := by
  unfold Outside.dropLink
  split <;> rfl

lemma got_noteRequest (o : Outside) : (o.noteRequest env shared loop e).got = o.got := by
  unfold Outside.noteRequest
  split <;> rfl

lemma unsentTo_of_fresh (hnew : ∀ q ∈ new, q.status = .queued ∧ q.sent = []) (client : Nat) :
    unsentTo (.client client) new = (responsesTo client new).flatten := by
  induction new with
  | nil => rfl
  | cons q new ih =>
    obtain ⟨hqueued, hsent⟩ := hnew q (by simp)
    rw [unsentTo_cons, unsent_of_fresh hqueued hsent, ih fun q' hq' => hnew q' (by simp [hq'])]
    by_cases hq : q.stream = .client client <;> simp [responsesTo, hq]

lemma stays_of_unsentTo (hkept : ∀ q ∈ new, Kept loop q) {client : Nat}
    (h : unsentTo (.client client) new ≠ []) : Stays loop client := by
  obtain ⟨q, hq, hstream, hunsent⟩ := exists_of_unsentTo_ne_nil h
  have hun := unsent_ne_nil_iff.mp hunsent
  have hbuffer : q.buffer = .responsePackage ∧ q.client = client := by
    cases hb : q.buffer <;> simp_all [UvWrite.stream]
  obtain ⟨httpReq, hrecord, -⟩ := (hkept q hq).rest hun
  have hactive := (hkept q hq).active hun hbuffer.1
  rw [hbuffer.2] at hrecord hactive
  exact .inl ⟨by rw [hrecord]; rfl, hactive⟩

lemma unsentTo_callback (client : Nat) :
    unsentTo (.client client)
        (writes.map (UvWrite.afterCallback e) ++ newWrites env shared loop e) =
      (if endsStream e (.client client) then [] else unsentTo (.client client) writes) ++
        (responsesTo client (newWrites env shared loop e)).flatten := by
  rw [unsentTo_append, unsentTo_afterCallback, unsentTo_of_fresh fun q hq => newWrites_fresh hq]

lemma responsesTo_callback (client : Nat) :
    (responsesTo client
        (writes.map (UvWrite.afterCallback e) ++ newWrites env shared loop e)).flatten =
      (responsesTo client writes).flatten ++
        (responsesTo client (newWrites env shared loop e)).flatten := by
  rw [responsesTo_append, responsesTo_afterCallback, List.flatten_append]

lemma writesHold_agent (hparse : ∀ bytes, (env.phrParseRequest bytes).ret ≤ bytes.length)
    (h : WritesHold m) (hspares : SparesWrites m (.mesh (.agent e)))
    (hstep : m.agent env startTime shared e = some (shared', m')) : WritesHold m' := by
  obtain ⟨-, loop', hcall, rfl⟩ := sendingAgent_eq hstep
  have hloopStep := loopStep_of_step hcall
  have hkeptNew : ∀ q ∈ newWrites env shared m.loop e, Kept loop' q :=
    fun q hq => kept_newWrites hcall hq
  have hstaying : ∀ client, Stays loop' client → (m.outside.got client).flatten ++
      unsentTo (.client client)
        (m.writes.map (UvWrite.afterCallback e) ++ newWrites env shared m.loop e) =
      (responsesTo client
        (m.writes.map (UvWrite.afterCallback e) ++ newWrites env shared m.loop e)).flatten := by
    intro client hstays
    rw [unsentTo_callback, responsesTo_callback, endsStream_of_stays h.records hloopStep hstays,
      ← List.append_assoc, if_neg Bool.false_ne_true,
      h.staying client (stays_step hloopStep hstays)]
  refine ⟨recordsSound_step h.records (recordStep_of_step hparse h.records hcall), ?_, ?_, ?_⟩
  · intro q hq
    rcases List.mem_append.mp hq with hold | hnew
    · obtain ⟨old, hmem, rfl⟩ := List.mem_map.mp hold
      exact (h.kept old hmem).afterCallback hparse h.records hcall (hspares old hmem)
    · exact hkeptNew q hnew
  · intro client
    simp only [got_dropLink, got_noteRequest]
    by_cases hstays : Stays loop' client
    · exact ⟨[], by rw [List.append_nil, hstaying client hstays]⟩
    · have hnone : (responsesTo client (newWrites env shared m.loop e)).flatten = [] := by
        rw [← unsentTo_of_fresh fun q hq => newWrites_fresh hq]
        by_contra hne
        exact hstays (stays_of_unsentTo hkeptNew hne)
      rw [unsentTo_callback, responsesTo_callback, hnone, List.append_nil, List.append_nil]
      refine List.IsPrefix.trans ?_ (h.pieces client)
      split
      · rw [List.append_nil]
        exact List.prefix_append _ _
      · exact List.prefix_refl _
  · intro client hstays
    simp only [got_dropLink, got_noteRequest]
    exact hstaying client hstays

lemma unsent_transmit {bytes : List UInt8} (hqueued : q.status = .queued)
    (hpre : q.sent ++ bytes <+: q.built) :
    q.unsent = bytes ++ ({ q with sent := q.sent ++ bytes } : UvWrite).unsent := by
  obtain ⟨rest, hrest⟩ := hpre
  simp only [UvWrite.unsent, hqueued, if_true, ← hrest, List.drop_left]
  rw [List.append_assoc, List.drop_left]

lemma Kept.of_eq (h : Kept loop q) (hreqs : loop'.evLoop = loop.evLoop)
    (hclosing : loop'.closing = loop.closing) : Kept loop' q :=
  ⟨h.sent, h.complete, by rw [hreqs]; exact h.rest, by rw [hclosing]; exact h.active⟩

lemma WritesHold.set {bytes : List UInt8} (h : WritesHold m) (hi : m.writes[i]? = some q)
    (hkept : Kept m.loop q') (hstream : q'.stream = q.stream) (hbuilt : q'.built = q.built)
    (hfirst : unsentTo q.stream (m.writes.take i) = []) (hbytes : q.unsent = bytes ++ q'.unsent) :
    WritesHold { m with
      writes := m.writes.set i q'
      outside := m.outside.receive bytes q.stream } := by
  have hresponses := fun client => responsesTo_set client hi hstream hbuilt
  have htaken : ∀ client, ((m.outside.receive bytes q.stream).got client).flatten ++
      unsentTo (.client client) (m.writes.set i q') =
        (m.outside.got client).flatten ++ unsentTo (.client client) m.writes := by
    intro client
    rw [unsentTo_receive hi hstream hfirst hbytes, ← List.append_assoc]
    congr 1
    cases hq : q.stream with
    | provider endpoint => simp [Outside.receive, Outside.setLink]
    | client k =>
      by_cases hk : client = k
      · subst hk
        simp [Outside.receive]
      · simp [Outside.receive, hk, Ne.symm hk]
  refine ⟨h.records, ?_, ?_, ?_⟩
  · intro k hk
    rcases List.mem_or_eq_of_mem_set hk with hold | rfl
    · exact h.kept k hold
    · exact hkept
  · intro client
    rw [htaken, hresponses]
    exact h.pieces client
  · intro client hstays
    rw [htaken, hresponses]
    exact h.staying client hstays

lemma sendingTransmit_eq {count : Nat} {freed : Mem UInt8}
    (h : m.transmit i count freed = some m') :
    ∃ q, m.writes[i]? = some q ∧ q.status = .queued ∧ q.streamOpen m.loop = true ∧ 0 < count ∧
      q.sent.length + count ≤ q.built.length ∧ unsentTo q.stream (m.writes.take i) = [] ∧
      m' = { m with
        writes := m.writes.set i { q with sent := q.sent ++ q.nextBytes m.loop freed count }
        outside := m.outside.receive (q.nextBytes m.loop freed count) q.stream } := by
  unfold SendingLoop.transmit at h
  split at h
  · simp at h
  next q hi =>
  simp only [Option.ite_none_left_eq_some, not_or, not_not, Nat.not_lt, Bool.not_eq_false,
    Option.some.injEq] at h
  obtain ⟨⟨hqueued, hopen, hcount, hle, hfirst⟩, rfl⟩ := h
  exact ⟨q, hi, hqueued, hopen, Nat.pos_of_ne_zero hcount, hle, hfirst, rfl⟩

lemma transmit_step {count : Nat} {freed : Mem UInt8} (h : WritesHold m)
    (hstep : m.transmit i count freed = some m') : WritesHold m' ∧ asCopied m' = asCopied m := by
  obtain ⟨q, hi, hqueued, -, -, hle, hfirst, rfl⟩ := sendingTransmit_eq hstep
  have hkept := (h.kept q (List.mem_of_getElem? hi)).transmit hqueued freed hle
  have hbytes := unsent_transmit hqueued hkept.sent
  exact ⟨h.set hi hkept rfl rfl hfirst hbytes,
    congrArg (MeshLoop.mk m.loop) (allSent_receive hi rfl rfl hfirst hbytes)⟩

lemma sendingWritten_eq (h : m.written i = some m') :
    ∃ q, m.writes[i]? = some q ∧ q.status = .queued ∧ q.sent.length = q.built.length ∧
      m' = { m with writes := m.writes.set i { q with status := .written } } := by
  unfold SendingLoop.written at h
  split at h
  · simp at h
  next q hi =>
  simp only [Option.ite_none_left_eq_some, not_or, not_not, Option.some.injEq] at h
  obtain ⟨⟨hqueued, hlen⟩, rfl⟩ := h
  exact ⟨q, hi, hqueued, hlen, rfl⟩

lemma written_step (h : WritesHold m) (hstep : m.written i = some m') :
    WritesHold m' ∧ asCopied m' = asCopied m := by
  obtain ⟨q, hi, hqueued, hlen, rfl⟩ := sendingWritten_eq hstep
  have hkept := (h.kept q (List.mem_of_getElem? hi)).written hlen
  have hunsent : ∀ stream, unsentTo stream (m.writes.set i { q with status := .written }) =
      unsentTo stream m.writes := by
    intro stream
    have hdone : q.unsent = [] := by simp [UvWrite.unsent, hqueued, hlen]
    rw [unsentTo_split stream hi, hdone]
    exact unsentTo_set stream hi rfl
  have hresponses : ∀ client, responsesTo client (m.writes.set i { q with status := .written }) =
      responsesTo client m.writes := fun client => responsesTo_set client hi rfl rfl
  refine ⟨⟨h.records, ?_, ?_, ?_⟩, ?_⟩
  · intro k hk
    rcases List.mem_or_eq_of_mem_set hk with hold | rfl
    · exact h.kept k hold
    · exact hkept
  · intro client
    simp only [hunsent, hresponses]
    exact h.pieces client
  · intro client hstays
    simp only [hunsent, hresponses]
    exact h.staying client hstays
  · refine congrArg (MeshLoop.mk m.loop) (allSent_eq (fun which => ?_) hresponses rfl rfl rfl)
    rw [hunsent]
    rfl

/-- The steps of the mesh that an event is. -/
def meshEvents : SendingEvent → List MeshEvent
  | .mesh e => [e]
  | _ => []

lemma beyond_copied {e : MeshEvent} (h : WritesHold m)
    (hstep : ((⟨m.loop, m.outside⟩ : MeshLoop).beyond b shared e).map (fun r =>
      (r.1, (⟨r.2.loop, m.writes, r.2.outside⟩ : SendingLoop))) = some (shared', m')) :
    WritesHold m' ∧
      (asCopied m).copiedStep b env startTime shared e = some (shared', asCopied m') := by
  obtain ⟨⟨shared₁, loop', o'⟩, hcall, hm⟩ := Option.map_eq_some_iff.mp hstep
  cases hm
  obtain ⟨-, hgot, hevLoop, hclosing, haccepted, hcopied⟩ := beyond_step m.writes hcall
  refine ⟨⟨⟨?_, ?_⟩, fun q hq => (h.kept q hq).of_eq hevLoop hclosing, ?_, ?_⟩,
    copiedStep_of_beyond hcopied⟩
  · rw [hevLoop, haccepted]
    exact h.records.named
  · rw [hevLoop]
    exact h.records.block
  · simp only [hgot]
    exact h.pieces
  · simp only [hgot]
    rintro client (hactive | hnew)
    · exact h.staying client (.inl ⟨hevLoop ▸ hactive.record, hclosing ▸ hactive.staying⟩)
    · exact h.staying client (.inr (haccepted ▸ hnew))

/-- A step of the mesh is one of the mesh whose streams take all bytes at once, and what
transmits bytes is no step there. -/
theorem sendingLoop_step {event : SendingEvent}
    (hparse : ∀ bytes, (env.phrParseRequest bytes).ret ≤ bytes.length) (h : WritesHold m)
    (hspares : SparesWrites m event)
    (hstep : m.step b env startTime shared event = some (shared', m')) :
    WritesHold m' ∧
      ((∃ e, event = .mesh e ∧
          (asCopied m).copiedStep b env startTime shared e = some (shared', asCopied m')) ∨
        meshEvents event = [] ∧ shared' = shared ∧ asCopied m' = asCopied m) := by
  cases event with
  | mesh e =>
    cases e with
    | agent e =>
      exact ⟨writesHold_agent hparse h hspares hstep, .inl ⟨_, rfl, asCopied_agent hstep⟩⟩
    | _ =>
      obtain ⟨hholds, hcopied⟩ := beyond_copied h hstep
      exact ⟨hholds, .inl ⟨_, rfl, hcopied⟩⟩
  | transmit i count freed =>
    obtain ⟨m₁, hcall, hm⟩ := Option.map_eq_some_iff.mp hstep
    cases hm
    obtain ⟨hholds, hcopied⟩ := transmit_step h hcall
    exact ⟨hholds, .inr ⟨rfl, rfl, hcopied⟩⟩
  | written i =>
    obtain ⟨m₁, hcall, hm⟩ := Option.map_eq_some_iff.mp hstep
    cases hm
    obtain ⟨hholds, hcopied⟩ := written_step h hcall
    exact ⟨hholds, .inr ⟨rfl, rfl, hcopied⟩⟩

end

/-! ### Runs -/

/-- The mesh, as if all streams had taken all bytes at once. -/
def copiedMesh (s : SendingMesh) : CopiedMesh :=
  ⟨s.world, fun tid => allSent (s.writes tid) (s.outside tid)⟩

/-- The steps that meet a condition and spare the writes. -/
def SendingStepIf (b : Build) (env : Environment)
    (cond : Environment → Shared → MeshLoop → MeshEvent → Prop) (s : SendingMesh)
    (e : Nat × SendingEvent) (s' : SendingMesh) : Prop :=
  s.step b env e = some s' ∧ SparesWrites (s.sendingLoop e.1) e.2 ∧
    ∀ event ∈ meshEvents e.2, cond env s.world.shared ⟨s.world.loops e.1, s.outside e.1⟩ event

/-- The condition does not look at what is on its way to the relays. -/
def SeesNoBytes (cond : Environment → Shared → MeshLoop → MeshEvent → Prop) : Prop :=
  ∀ env shared m event writes, cond env shared m event →
    cond env shared ⟨m.loop, allSent writes m.outside⟩ event

lemma seesNoBytes_meshLoopCond : SeesNoBytes MeshLoopCond := fun _ _ _ _ _ h => h

lemma seesNoBytes_meshServiceCond : SeesNoBytes MeshServiceCond := fun _ _ _ _ _ h => h

section

variable {b : Build} {env : Environment} {n : Nat} {startTime : Int} {raw : Nat → Nat → Mem UInt8}
  {es : List (Nat × SendingEvent)} {s s' : SendingMesh} {e : Nat × SendingEvent}
  {cond : Environment → Shared → MeshLoop → MeshEvent → Prop}

lemma sendingMesh_cases (h : s.step b env e = some s') :
    e.1 < eventLoopNum ∧ ∃ shared m',
      (s.sendingLoop e.1).step b env s.world.startTime s.world.shared e.2 = some (shared, m') ∧
      s'.world.startTime = s.world.startTime ∧ s'.world.shared = shared ∧
      ∀ tid, s'.sendingLoop tid = if tid = e.1 then m' else s.sendingLoop tid := by
  simp only [SendingMesh.step, Option.ite_none_right_eq_some] at h
  obtain ⟨htid, h⟩ := h
  obtain ⟨⟨shared, m'⟩, hloop, rfl⟩ := Option.map_eq_some_iff.mp h
  refine ⟨htid, shared, m', hloop, rfl, rfl, fun tid => ?_⟩
  by_cases ht : tid = e.1
  · subst ht
    simp [SendingMesh.sendingLoop]
  · simp [SendingMesh.sendingLoop, ht]

/-- What holds of the records and the writes of all loops. -/
def AllWritesHold (s : SendingMesh) : Prop :=
  ∀ tid, tid < eventLoopNum → WritesHold (s.sendingLoop tid)

lemma allWritesHold_start (n : Nat) (startTime : Int) (raw : Nat → Nat → Mem UInt8) :
    AllWritesHold (startSendingMesh (consumer n startTime raw)) :=
  fun tid _ => ⟨recordsSound_start tid _, fun _ hq => absurd hq (List.not_mem_nil),
    fun _ => List.prefix_refl _, fun _ _ => rfl⟩

lemma copiedMesh_eq {m : CopiedMesh} (hstart : m.world.startTime = s.world.startTime)
    (hshared : m.world.shared = s.world.shared)
    (hloops : ∀ tid, m.meshLoop tid = asCopied (s.sendingLoop tid)) : m = copiedMesh s := by
  obtain ⟨⟨startTime, shared, loops⟩, outside⟩ := m
  obtain ⟨⟨⟨startTime', shared', loops'⟩, writes⟩, outside'⟩ := s
  cases hstart
  cases hshared
  have hloop : loops = loops' := funext fun tid => congrArg MeshLoop.loop (hloops tid)
  have houtside : outside = fun tid => allSent (writes tid) (outside' tid) :=
    funext fun tid => congrArg MeshLoop.outside (hloops tid)
  subst hloop houtside
  rfl

/-- A step is one of the mesh in which nothing is queued, or none there. -/
lemma copiedMesh_step (hparse : ∀ bytes, (env.phrParseRequest bytes).ret ≤ bytes.length)
    (h : AllWritesHold s) (hspares : SparesWrites (s.sendingLoop e.1) e.2)
    (hstep : s.step b env e = some s') :
    AllWritesHold s' ∧
      ((∃ event, e.2 = .mesh event ∧
          (copiedMesh s).step b env (e.1, event) = some (copiedMesh s')) ∨
        meshEvents e.2 = [] ∧ copiedMesh s' = copiedMesh s) := by
  obtain ⟨htid, shared, m', hloop, hstart, hshared, hnew⟩ := sendingMesh_cases hstep
  obtain ⟨hholds, hcases⟩ := sendingLoop_step hparse (h e.1 htid) hspares hloop
  constructor
  · intro tid htid'
    rw [hnew tid]
    split
    · exact hholds
    · exact h tid htid'
  · rcases hcases with ⟨event, hevent, hcall⟩ | ⟨hnone, hsame, hcopied⟩
    · refine .inl ⟨event, hevent, ?_⟩
      have hcall' : ((copiedMesh s).meshLoop e.1).copiedStep b env (copiedMesh s).world.startTime
          (copiedMesh s).world.shared event = some (shared, asCopied m') := hcall
      rw [CopiedMesh.step, if_pos htid, hcall', Option.map_some, Option.some.injEq]
      apply copiedMesh_eq hstart.symm hshared.symm
      intro tid
      rw [meshLoop_update (copiedMesh s).world (copiedMesh s).outside shared e.1 (asCopied m') tid,
        hnew tid]
      split <;> rfl
    · refine .inr ⟨hnone, (copiedMesh_eq hstart.symm (by rw [hshared, hsame]; rfl) ?_).symm⟩
      intro tid
      rw [hnew tid]
      split
      · next ht =>
        subst ht
        exact hcopied.symm
      · rfl

/-- A run is one of the mesh whose streams take all bytes at once. -/
theorem copiedMesh_run (hparse : ∀ bytes, (env.phrParseRequest bytes).ret ≤ bytes.length)
    (hcond : SeesNoBytes cond)
    (h : Run (SendingStepIf b env cond) (startSendingMesh (consumer n startTime raw)) es s) :
    AllWritesHold s ∧ Run (CopiedStepIf b env cond) (startCopied (consumer n startTime raw))
      (es.flatMap fun e => (meshEvents e.2).map (Prod.mk e.1)) (copiedMesh s) := by
  have hstep : ∀ s e s' m, (AllWritesHold s ∧ copiedMesh s = m) → SendingStepIf b env cond s e s' →
      ∃ ds m', Run (CopiedStepIf b env cond) m ds m' ∧
        ds.flatMap (fun e => [e]) = (meshEvents e.2).map (Prod.mk e.1) ∧
        AllWritesHold s' ∧ copiedMesh s' = m' := by
    rintro s e s' m ⟨hholds, rfl⟩ ⟨hstep, hspares, hmeets⟩
    obtain ⟨hholds', hcases⟩ := copiedMesh_step hparse hholds hspares hstep
    rcases hcases with ⟨event, hevent, hmesh⟩ | ⟨hnone, hsame⟩
    · rw [hevent] at hmeets ⊢
      have hmeets' := hcond _ _ _ _ (s.writes e.1) (hmeets event (by simp [meshEvents]))
      exact ⟨[(e.1, event)], _, .single ⟨hmesh, hmeets'⟩, rfl, hholds', rfl⟩
    · exact ⟨[], _, .nil _, by rw [hnone]; rfl, hholds', hsame⟩
  obtain ⟨es', m, hrun, hshown, hholds, rfl⟩ :=
    h.refine hstep ⟨allWritesHold_start n startTime raw, rfl⟩
  rw [List.flatMap_singleton'] at hshown
  exact ⟨hholds, hshown ▸ hrun⟩

lemma allHold_sending (hb : b ≠ .bmi)
    (hparse : ∀ bytes, (env.phrParseRequest bytes).ret ≤ bytes.length)
    (h : Run (SendingStepIf b env MeshLoopCond)
      (startSendingMesh (consumer n startTime raw)) es s) :
    AllHold env (copiedMesh s) :=
  allHold_run hb (copiedMesh_run hparse seesNoBytes_meshLoopCond h).2

lemma keeps_allSent (writes : List UvWrite) (o : Outside) (id : Nat) :
    Keeps (allSent writes o) o id := ⟨rfl, fun _ h => h⟩

end

end MeshAgent.Proofs
