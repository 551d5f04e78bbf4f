import MeshAgent.Proofs.MeshDelivery
import MeshAgent.Proofs.SendingResults

/-!
# Every client gets its results in the end

As long as the connections stay open, what is queued or on its way can be moved on, in any
order, until nothing is left. Then every client has got the results of all its requests.
-/

namespace MeshAgent.Proofs
open MeshAgent.Foundations MeshAgent.Model

/-- The steps that move on what is queued or on its way. -/
def SendingDelivers (e : SendingEvent) : Prop := ∀ event ∈ meshEvents e, Delivers event

/-- A delivery at one of the event loops, which spares the writes. -/
def SendingDeliveryStep (b : Build) (env : Environment) (s : SendingMesh) (e : Nat × SendingEvent)
    (s' : SendingMesh) : Prop :=
  s.step b env e = some s' ∧ SparesWrites (s.sendingLoop e.1) e.2 ∧ SendingDelivers e.2

/-- What a write waits for: its bytes are to be transmitted, and its callback is to be called. -/
def writeRank (q : UvWrite) : Nat := if q.status = .queued then q.unsent.length + 1 else 0

def queueRank (writes : List UvWrite) : Nat := (writes.map writeRank).sum

/-- What is on its way, and then what is queued. -/
def sendingRank (n : Nat) (s : SendingMesh) : Rank ×ₗ ℕ :=
  toLex (meshRank n (copiedMesh s), ∑ tid ∈ Finset.range eventLoopNum, queueRank (s.writes tid))

/-- The stream takes bytes. -/
def takesBytes (loop : WorkLoop) : SendStream → Bool
  | .provider endpoint => (loop.streams endpoint).connection = .established
  | .client client => !loop.closing client

section

variable {b : Build} {env : Environment} {startTime : Int} {shared shared' : Shared} {n i tid : Nat}
  {loop : WorkLoop} {m m' : SendingLoop} {q q' : UvWrite} {writes : List UvWrite}
  {stream : SendStream}

lemma queueRank_set (hi : writes[i]? = some q) (hless : writeRank q' < writeRank q) :
    queueRank (writes.set i q') < queueRank writes := by
  induction writes generalizing i with
  | nil => simp at hi
  | cons first writes ih =>
    cases i with
    | zero =>
      rw [List.getElem?_cons_zero, Option.some.injEq] at hi
      subst hi
      simp only [queueRank, List.set_cons_zero, List.map_cons, List.sum_cons]
      omega
    | succ i =>
      rw [List.getElem?_cons_succ] at hi
      have hrest := ih hi
      simp only [queueRank, List.set_cons_succ, List.map_cons, List.sum_cons] at hrest ⊢
      omega

lemma queueRank_transmit {count : Nat} {freed : Mem UInt8}
    (h : m.transmit i count freed = some m') : queueRank m'.writes < queueRank m.writes := by
  obtain ⟨q, hi, hqueued, -, hcount, hle, -, rfl⟩ := sendingTransmit_eq h
  apply queueRank_set hi
  have hlen : (q.nextBytes m.loop freed count).length = count := Mem.length_read _ _ _
  simp only [writeRank, UvWrite.unsent, hqueued, if_true, List.length_drop,
    List.length_append, hlen]
  omega

lemma queueRank_written (h : m.written i = some m') :
    queueRank m'.writes < queueRank m.writes := by
  obtain ⟨q, hi, hqueued, -, rfl⟩ := sendingWritten_eq h
  apply queueRank_set hi
  simp [writeRank, hqueued]

lemma streamOpen_eq (q : UvWrite) (loop : WorkLoop) :
    q.streamOpen loop = takesBytes loop q.stream := by
  cases hbuffer : q.buffer <;> simp [UvWrite.streamOpen, UvWrite.stream, takesBytes, hbuffer]

lemma exists_first_unsent (h : unsentTo stream writes ≠ []) :
    ∃ i q, writes[i]? = some q ∧ q.stream = stream ∧ Unfinished q ∧
      unsentTo stream (writes.take i) = [] := by
  induction writes with
  | nil => exact absurd rfl h
  | cons first writes ih =>
    by_cases hfirst : first.stream = stream ∧ first.unsent ≠ []
    · exact ⟨0, first, rfl, hfirst.1, unsent_ne_nil_iff.mp hfirst.2, rfl⟩
    · have hnone : (if first.stream = stream then first.unsent else []) = [] := by
        by_cases hs : first.stream = stream
        · rw [if_pos hs]
          by_contra hne
          exact hfirst ⟨hs, hne⟩
        · rw [if_neg hs]
      rw [unsentTo_cons, hnone, List.nil_append] at h
      obtain ⟨i, q, hi, hq, hun, htake⟩ := ih h
      refine ⟨i + 1, q, by rw [List.getElem?_cons_succ, hi], hq, hun, ?_⟩
      rw [List.take_succ_cons, unsentTo_cons, hnone, htake, List.nil_append]

lemma exists_transmit (h : unsentTo stream m.writes ≠ [])
    (hopen : takesBytes m.loop stream = true) (freed : Mem UInt8) :
    ∃ i m', m.transmit i 1 freed = some m' := by
  obtain ⟨i, q, hi, rfl, ⟨hqueued, hless⟩, hfirst⟩ := exists_first_unsent h
  refine ⟨i, ?_⟩
  unfold SendingLoop.transmit
  simp only [hi]
  rw [if_neg]
  · exact ⟨_, rfl⟩
  · simp only [not_or, not_not, Nat.not_lt, streamOpen_eq, hopen]
    exact ⟨hqueued, by simp, by simp, hless, hfirst⟩

/-- Nothing is queued for the streams that take bytes. -/
def QueuesEmpty (m : SendingLoop) : Prop :=
  ∀ stream, takesBytes m.loop stream = true → unsentTo stream m.writes = []

lemma queuesEmpty_of_stuck
    (hstuck : ∀ event, SparesWrites m event → SendingDelivers event →
      m.step b env startTime shared event = none) : QueuesEmpty m := by
  intro stream hopen
  by_contra hne
  obtain ⟨i, m', htransmit⟩ := exists_transmit hne hopen (fun _ => 0)
  have hnone := hstuck (.transmit i 1 fun _ => 0) trivial (by simp [SendingDelivers, meshEvents])
  rw [SendingLoop.step, htransmit] at hnone
  exact absurd hnone (by simp)

lemma SendStream.unsent_eq_nil (h : unsentTo q.stream writes = []) (hq : q ∈ writes) :
    q.unsent = [] := by
  apply List.flatMap_eq_nil_iff.mp h q
  rw [List.mem_filter, decide_eq_true_eq]
  exact ⟨hq, rfl⟩

lemma sparesWrites_of_queuesEmpty (h : WritesHold m) (hempty : QueuesEmpty m) {event : MeshEvent}
    (hdelivers : Delivers event) : SparesWrites m (.mesh event) := by
  cases event with
  | agent e =>
    intro q hq hun
    cases e with
    | replyRead => trivial
    | replyPass now =>
      intro hbuffer
      have hstays := (h.kept q hq).active hun hbuffer
      have hopen : takesBytes m.loop q.stream = true := by
        simp [takesBytes, UvWrite.stream, hbuffer, hstays]
      exact absurd (SendStream.unsent_eq_nil (hempty _ hopen) hq) (unsent_ne_nil_iff.mpr hun)
    | _ => exact absurd hdelivers (by simp [Delivers])
  | _ => trivial

/-- What could be delivered if all streams had taken all bytes can be delivered. -/
lemma asCopied_stuck (hserves : MeshServes env tid (asCopied m)) (hwrites : WritesHold m)
    (hreached : LinksReached n (asCopied m)) (hempty : QueuesEmpty m)
    (hstuck : ∀ event, SparesWrites m event → SendingDelivers event →
      m.step b env startTime shared event = none) {event : MeshEvent} (hdelivers : Delivers event) :
    (asCopied m).copiedStep b env startTime shared event = none := by
  have hnone : m.step b env startTime shared (.mesh event) = none :=
    hstuck _ (sparesWrites_of_queuesEmpty hwrites hempty hdelivers)
      (by simpa [SendingDelivers, meshEvents] using hdelivers)
  have hlink : ∀ which, (m.loop.streams which).connection = .established →
      (asCopied m).outside.links which = m.outside.links which := by
    intro which hopen
    have hqueue := hempty (.provider which) (by simpa [takesBytes] using hopen)
    simp [asCopied, links_allSent, withQueued, hqueue]
  have hrelay : ∀ which, (m.loop.streams which).connection ≠ .established →
      ((asCopied m).outside.links which).relay = none := by
    intro which hnot
    by_contra hrelay
    exact hnot ((hserves.holds.endpoints which).relayed hrelay)
  cases event with
  | agent e =>
    have hcall : m.loop.step env startTime shared e = none := by
      by_contra hsome
      obtain ⟨⟨shared', loop'⟩, hcall⟩ := Option.ne_none_iff_exists'.mp hsome
      cases e <;> simp [SendingLoop.step, SendingLoop.agent, hcall, Delivers] at hnone hdelivers
    cases e <;> simp [MeshLoop.copiedStep, MeshLoop.copiedAgent, asCopied, hcall]
  | relayStarts which raw1 raw2 =>
    by_cases hopen : (m.loop.streams which).connection = .established
    · have hopen' : ((asCopied m).loop.streams which).connection = .established := hopen
      simpa [SendingLoop.step, MeshLoop.copiedStep, MeshLoop.beyond, hlink which hopen, hopen,
        hopen'] using hnone
    · simp [MeshLoop.copiedStep, MeshLoop.beyond, asCopied, hopen]
  | relayReads1 which chunk fresh =>
    by_cases hopen : (m.loop.streams which).connection = .established
    · simpa [SendingLoop.step, MeshLoop.copiedStep, MeshLoop.beyond, hlink which hopen] using hnone
    · simp [MeshLoop.copiedStep, MeshLoop.beyond, Link.relayReads1, hrelay which hopen]
  | dubboReads which =>
    by_cases hopen : (m.loop.streams which).connection = .established
    · simpa [SendingLoop.step, MeshLoop.copiedStep, MeshLoop.beyond, hlink which hopen] using hnone
    · simp [MeshLoop.copiedStep, MeshLoop.beyond, Link.dubboReads,
        (hreached.started which (hrelay which hopen)).1,
        packageCode.next_nil]
  | dubboAnswers which i result =>
    by_cases hopen : (m.loop.streams which).connection = .established
    · simpa [SendingLoop.step, MeshLoop.copiedStep, MeshLoop.beyond, hlink which hopen] using hnone
    · simp [MeshLoop.copiedStep, MeshLoop.beyond, Link.dubboAnswers,
        (hreached.started which (hrelay which hopen)).2.1]
  | relayReads2 which chunk fresh =>
    by_cases hopen : (m.loop.streams which).connection = .established
    · simpa [SendingLoop.step, MeshLoop.copiedStep, MeshLoop.beyond, hlink which hopen] using hnone
    · simp [MeshLoop.copiedStep, MeshLoop.beyond, Link.relayReads2, hrelay which hopen]

end

/-! ### Deliveries of the mesh -/

/-- All the requests that the clients had sent in `s₀` have been answered, and the answers have
been transmitted. -/
def AllAnswered (env : Environment) (s₀ s : SendingMesh) : Prop :=
  ∀ tid, tid < eventLoopNum → ∀ client, Active (s₀.world.loops tid) client →
    (s.outside tid).asked client = (s₀.outside tid).asked client ∧
    ∃ responses,
      List.Forall₂ (ServedWith env (s.outside tid)) responses ((s₀.outside tid).asked client) ∧
      ((s.outside tid).got client).flatten = responses.flatten

section

variable {b : Build} {env : Environment} {n : Nat} {s₀ s s' : SendingMesh} {e : Nat × SendingEvent}

/-- What holds along deliveries from `s₀`. -/
structure Delivering (env : Environment) (n : Nat) (s₀ s : SendingMesh) : Prop where
  writes : AllWritesHold s
  serves : AllServe env n (copiedMesh s)
  delivered : ∀ tid, Delivered ((copiedMesh s₀).meshLoop tid) ((copiedMesh s).meshLoop tid)

lemma delivering_step (hb : b ≠ .bmi)
    (hparse : ∀ bytes, (env.phrParseRequest bytes).ret ≤ bytes.length)
    (h : Delivering env n s₀ s) (hstep : SendingDeliveryStep b env s e s') :
    Delivering env n s₀ s' ∧ sendingRank n s' < sendingRank n s := by
  obtain ⟨hcall, hspares, hdelivers⟩ := hstep
  obtain ⟨hwrites, hcases⟩ := copiedMesh_step hparse h.writes hspares hcall
  rcases hcases with ⟨event, hevent, hmesh⟩ | ⟨hnone, hsame⟩
  · have hdelivery : CopiedDeliveryStep b env (copiedMesh s) (e.1, event) (copiedMesh s') :=
      ⟨hmesh, hdelivers event (by simp [hevent, meshEvents])⟩
    refine ⟨⟨hwrites, allServe_step hb h.serves ⟨hmesh, hdelivery.2.cond _ _ _⟩,
      fun tid => (h.delivered tid).trans (delivered_meshStep h.serves hdelivery tid)⟩, ?_⟩
    exact Prod.Lex.toLex_lt_toLex.mpr (.inl (meshRank_lt h.serves hdelivery))
  · refine ⟨⟨hwrites, hsame ▸ h.serves, hsame ▸ h.delivered⟩, ?_⟩
    obtain ⟨htid, shared, m', hloop, -, -, hnew⟩ := sendingMesh_cases hcall
    have hless : queueRank m'.writes < queueRank (s.writes e.1) := by
      obtain ⟨tid, event⟩ := e
      cases event with
      | mesh event => simp [meshEvents] at hnone
      | transmit i count freed =>
        obtain ⟨m₁, htransmit, hm⟩ := Option.map_eq_some_iff.mp hloop
        cases hm
        exact queueRank_transmit htransmit
      | written i =>
        obtain ⟨m₁, hwritten, hm⟩ := Option.map_eq_some_iff.mp hloop
        cases hm
        exact queueRank_written hwritten
    have hqueues : ∀ tid, s'.writes tid = if tid = e.1 then m'.writes else s.writes tid := by
      intro tid
      have hloops := congrArg SendingLoop.writes (hnew tid)
      rwa [apply_ite SendingLoop.writes] at hloops
    have hsum : ∑ tid ∈ Finset.range eventLoopNum, queueRank (s'.writes tid) <
        ∑ tid ∈ Finset.range eventLoopNum, queueRank (s.writes tid) := by
      apply sum_range_lt htid (by rwa [hqueues, if_pos rfl])
      intro tid hne
      rw [hqueues, if_neg hne]
    exact Prod.Lex.toLex_lt_toLex.mpr (.inr ⟨by rw [hsame], hsum⟩)

lemma allAnswered_of_stuck (hb : b ≠ .bmi) (h : Delivering env n s₀ s)
    (hopen : ∀ tid, tid < eventLoopNum → ∀ which,
      unanswered ((s₀.world.loops tid).streams which) ≠ [] →
        ((s₀.world.loops tid).streams which).connection = .established)
    (hstuck : ∀ e s', ¬ SendingDeliveryStep b env s e s') : AllAnswered env s₀ s := by
  intro tid htid client hactive
  have hwrites := h.writes tid htid
  have hserves := h.serves.serves tid htid
  have hdelivered := h.delivered tid
  have hnever : ∀ event, SparesWrites (s.sendingLoop tid) event → SendingDelivers event →
      (s.sendingLoop tid).step b env s.world.startTime s.world.shared event = none := by
    intro event hspares hdelivers
    by_contra hsome
    obtain ⟨r, hr⟩ := Option.ne_none_iff_exists'.mp hsome
    have hstep : (s.step b env (tid, event)).isSome = true := by
      rw [SendingMesh.step, if_pos htid, hr]
      rfl
    obtain ⟨s', hs'⟩ := Option.isSome_iff_exists.mp hstep
    exact hstuck (tid, event) s' ⟨hs', hspares, hdelivers⟩
  have hempty := queuesEmpty_of_stuck hnever
  have hactive' : Active (s.world.loops tid) client := hdelivered.active client hactive
  obtain ⟨served, waiting, hasked, hgot, -, hwaits⟩ := hserves.served client hactive'
  have hnone : waiting = [] := by
    rw [List.eq_nil_iff_forall_not_mem]
    intro id hid
    obtain ⟨which, hmem⟩ := hwaits id hid
    have hold := hdelivered.unanswered which id hmem
    have hestablished := hopen tid htid which (List.ne_nil_of_mem hold)
    rw [answered_of_stuck hb hserves
      (fun event => asCopied_stuck hserves hwrites (h.serves.reached tid htid) hempty hnever)
      ((hdelivered.connection which).trans hestablished)] at hmem
    exact absurd hmem (by simp)
  rw [hnone, List.append_nil] at hasked
  have hsame : (s.outside tid).asked client = (s₀.outside tid).asked client :=
    congrFun hdelivered.asked client
  refine ⟨hsame, responsesTo client (s.writes tid), ?_, ?_⟩
  · rw [← hsame.symm.trans hasked] at hgot
    exact servedWith_keep hgot fun id _ => keeps_allSent _ _ id
  · have hall := hwrites.staying client (.inl hactive')
    rwa [hempty (.client client) (by simp [takesBytes, SendingMesh.sendingLoop, hactive'.staying]),
      List.append_nil] at hall

end

/-- From every state of every run in which nothing unanswered is given up: if the connections
on which something is unanswered are open, then, in whatever order and pieces what is queued or
on its way is delivered, it comes to a state in which each client that stays has got the results
of all its requests. -/
theorem results_arrive (b : Build) (hb : b ≠ .bmi) (env : Environment)
    (hparse : ∀ bytes, (env.phrParseRequest bytes).ret ≤ bytes.length) (n : Nat) (startTime : Int)
    (raw : Nat → Nat → Mem UInt8) (es : List (Nat × SendingEvent)) (s : SendingMesh)
    (h : Run (SendingStepIf b env MeshServiceCond)
      (startSendingMesh (consumer n startTime raw)) es s)
    (hopen : ∀ tid, tid < eventLoopNum → ∀ which,
      unanswered ((s.world.loops tid).streams which) ≠ [] →
        ((s.world.loops tid).streams which).connection = .established) :
    Eventually (SendingDeliveryStep b env) (AllAnswered env s) s := by
  obtain ⟨hwrites, hrun⟩ := copiedMesh_run hparse seesNoBytes_meshServiceCond h
  refine Eventually.of_rank (sendingRank n) (I := Delivering env n s) ?_ ?_
    ⟨hwrites, allServe_run hb hrun, fun _ => ⟨rfl, fun _ h => h, fun _ => rfl, fun _ _ h => h⟩⟩
  · intro s' hdelivering hnot
    by_contra hstuck
    simp only [not_exists] at hstuck
    exact hnot (allAnswered_of_stuck hb hdelivering hopen hstuck)
  · exact fun s₁ e s₂ hdelivering hstep => delivering_step hb hparse hdelivering hstep

theorem results_arrive_one :
    ∃ s es s', (s.outside 0).asked 0 = [0] ∧ (s.outside 0).got 0 = [] ∧
      Run (SendingDeliveryStep .plain (postEnvironment ['5', '5'])) s es s' ∧
      ∃ responses,
        List.Forall₂ (ServedWith (postEnvironment ['5', '5']) (s'.outside 0)) responses [0] ∧
        ((s'.outside 0).got 0).flatten = responses.flatten := by
  obtain ⟨s, -, hrun, hstate⟩ := oneRequest_run
  have hopen : ∀ tid, tid < eventLoopNum → ∀ which,
      unanswered ((s.world.loops tid).streams which) ≠ [] →
        ((s.world.loops tid).streams which).connection = .established := by
    intro tid htid which hne
    obtain ⟨id, hid⟩ := List.exists_mem_of_ne_nil _ hne
    have hloop := (meshServes_sending (by decide) (ret_postEnvironment_le _) hrun htid).holds.loop
    obtain ⟨client, howner, -⟩ := hloop.last which id hid
    obtain ⟨hless, hparity⟩ := hloop.table.lt_reqId howner
    have htwo : eventLoopNum = 2 := rfl
    simp only [asCopied, SendingMesh.sendingLoop, htwo] at hless hparity htid
    obtain rfl | rfl : tid = 0 ∨ tid = 1 := by omega
    · have hcounter := hstate.counter
      obtain rfl : id = 0 := by omega
      have hwhich : which = 0 := by
        by_contra hne
        exact hloop.distinct.disjoint which 0 hne hid hstate.waits
      rw [hwhich]
      exact hstate.reached
    · have hcounter := hstate.counter1
      omega
  obtain ⟨es, s', hdelivered, hanswered⟩ := (results_arrive .plain (by decide) _
    (ret_postEnvironment_le _) 1 0 _ _ s hrun hopen).exists_run
  obtain ⟨-, responses, hserved, hgot⟩ := hanswered 0 (by decide) 0 hstate.active
  rw [hstate.asked] at hserved
  exact ⟨s, es, s', hstate.asked, hstate.got, hdelivered, responses, hserved, hgot⟩

end MeshAgent.Proofs
