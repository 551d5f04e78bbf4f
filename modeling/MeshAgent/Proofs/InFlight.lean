import MeshAgent.Foundations.Tally
import MeshAgent.Proofs.EndpointSelection
import MeshAgent.Proofs.ReplyRouting

/-!
# The counters of requests in flight

`remain` is raised when an endpoint is selected and lowered when a reply is handled. It
counts the unanswered requests on open connections as long as no connection takes
unanswered requests with it and no request is dispatched to a connection that is not open.
-/

namespace MeshAgent.Proofs
open MeshAgent.Foundations MeshAgent.Model

/-- Connections end only when all is answered, and the endpoint of least cost is connected
whenever a request is dispatched. -/
def LosesNothing (env : Environment) (shared : Shared) (loop : WorkLoop) : Event → Prop
  | .clientRead client chunk stale now => Dispatching env shared loop client chunk stale now →
      ∀ which, LeastCost env.limits shared.lb which →
        (loop.streams which).connection = .established
  | .providerEnd which => unanswered (loop.streams which) = []
  | _ => True

/-- The number of requests written to a connection that is open and not answered. -/
def openUnanswered (stream : ProviderStream) : Nat :=
  if stream.connection = .established then (unanswered stream).length else 0

/-- The number of requests in flight to an endpoint, on the connections of all loops. -/
def inFlight (w : World) (which : Nat) : Nat :=
  ∑ tid ∈ Finset.range eventLoopNum, openUnanswered ((w.loops tid).streams which)

/-- Nothing is queued for a connection that is not open. -/
def NothingQueued (loop : WorkLoop) : Prop :=
  ∀ which, (loop.streams which).connection ≠ .established → (loop.streams which).pending = []

section

variable {env : Environment} {startTime : Int} {shared shared' : Shared} {loop loop' : WorkLoop}
  {e : Event}

lemma LosesNothing.endsAnswered (h : LosesNothing env shared loop e) : EndsAnswered loop e := by
  cases e with
  | providerEnd which => exact h
  | _ => trivial

lemma nothingQueued_step (hlb : 0 < shared.lb.numOfEnds) (h : NothingQueued loop)
    (hcond : LosesNothing env shared loop e)
    (hstep : LoopStep env startTime shared loop e shared' loop') : NothingQueued loop' := by
  have hmake : ∀ which, (loop.streams which).connection ≠ .established →
      (makeConnectionToAgent (loop.evLoop.server.endpointServers which)
        (loop.streams which)).pending = [] := by
    intro which hnot
    rw [makeConnectionToAgent]
    split
    · rfl
    · exact h which hnot
  have hupdate : ∀ {which : Nat} {stream : ProviderStream},
      (stream.connection ≠ .established → stream.pending = []) →
      ∀ k, (Function.update loop.streams which stream k).connection ≠ .established →
        (Function.update loop.streams which stream k).pending = [] := by
    intro which stream hnew
    exact (Function.forall_update_iff loop.streams fun _ stream =>
      stream.connection ≠ .established → stream.pending = []).mpr ⟨hnew, fun k _ => h k⟩
  cases hstep with
  | dispatch _ _ read =>
    have hopen := hcond read _ (selectIndex_leastCost env.limits hlb)
    refine hupdate fun hnot => absurd ?_ hnot
    rw [ProviderStream.write, hopen]
    simp
  | answer established => exact hupdate fun hnot => absurd established hnot
  | replyRead established => exact hupdate fun hnot => absurd established hnot
  | @handled which =>
    exact hupdate (h which)
  | providerEnd => exact hupdate fun _ => rfl
  | reconnect closing =>
    exact hupdate fun _ => hmake _ (by rw [closing]; decide)
  | connectFailed connecting =>
    exact hupdate fun _ => hmake _ (by rw [connecting]; decide)
  | connected => exact hupdate fun hnot => absurd rfl hnot
  | admitted => exact h
  | refuse => exact h
  | wait => exact h
  | clientEnd => exact h
  | closed => exact h
  | returned => exact h

lemma openUnanswered_update {streams : Nat → ProviderStream} {which : Nat} {stream : ProviderStream}
    {d : Int} (h : (openUnanswered stream : Int) = openUnanswered (streams which) + d) (i : Nat) :
    (openUnanswered (Function.update streams which stream i) : Int) =
      openUnanswered (streams i) + if i = which then d else 0 := by
  by_cases hi : i = which
  · subst hi
    rw [Function.update_self, if_pos rfl, h]
  · rw [Function.update_of_ne hi, if_neg hi, add_zero]

lemma openUnanswered_of_established {stream : ProviderStream}
    (h : stream.connection = .established) :
    openUnanswered stream = stream.pending.length + stream.inTransit.length := by
  rw [openUnanswered, if_pos h, unanswered, List.length_append]

lemma openUnanswered_of_not_established {stream : ProviderStream}
    (h : stream.connection ≠ .established) : openUnanswered stream = 0 := if_neg h

lemma openUnanswered_makeConnectionToAgent {server : EndpointServer} {stream : ProviderStream}
    (h : stream.connection ≠ .established) :
    openUnanswered (makeConnectionToAgent server stream) = 0 := by
  rw [makeConnectionToAgent]
  split
  · rfl
  · exact openUnanswered_of_not_established h

/-- A step changes a counter by as much as the requests in flight on its connection. -/
lemma remain_step (hlb : 0 < shared.lb.numOfEnds) (hframes : CarriesFrames loop)
    (hqueued : NothingQueued loop) (hcond : LosesNothing env shared loop e)
    (hstep : LoopStep env startTime shared loop e shared' loop') (i : Nat) :
    shared'.lb.remain i - openUnanswered (loop'.streams i) =
      shared.lb.remain i - openUnanswered (loop.streams i) := by
  have hunchanged : ∀ {which : Nat} {stream : ProviderStream},
      openUnanswered stream = openUnanswered (loop.streams which) →
      shared.lb.remain i - (openUnanswered (Function.update loop.streams which stream i) : Int) =
        shared.lb.remain i - openUnanswered (loop.streams i) := by
    intro which stream hsame
    rw [openUnanswered_update (d := 0) (by rw [hsame, add_zero]), ite_self, add_zero]
  cases hstep with
  | dispatch _ _ read =>
    have hopen := hcond read _ (selectIndex_leastCost env.limits hlb)
    simp only [dispatchedLoop]
    rw [openUnanswered_update (d := 1), LoadBalancer.remain_addRemain]
    · omega
    · rw [ProviderStream.write, if_neg (by rw [hopen]; decide),
        openUnanswered_of_established hopen, openUnanswered_of_established (by exact hopen)]
      simp only [List.length_append, List.length_singleton]
      omega
  | answer established pending =>
    apply hunchanged
    have hpos := List.length_pos_of_mem pending
    rw [openUnanswered_of_established established,
      openUnanswered_of_established (by exact established)]
    simp only [List.length_append, List.length_singleton, List.length_erase_of_mem pending]
    omega
  | replyRead established =>
    apply hunchanged
    rw [openUnanswered_of_established established,
      openUnanswered_of_established (by exact established)]
  | @handled which _ _ _ _ _ _ found reply =>
    obtain ⟨reqId, rest, htransit, -, -⟩ := (hframes which).handled found
    have hopen : (loop.streams which).connection = .established := by
      by_contra hnot
      rw [((hframes which).quiet hnot).1] at htransit
      exact absurd htransit (by simp)
    simp only [WorkLoop.setStream]
    rw [openUnanswered_update (d := -1), remain_handleReply reply]
    · omega
    · rw [openUnanswered_of_established hopen, openUnanswered_of_established (by exact hopen),
        htransit]
      simp only [List.tail_cons, List.length_cons]
      omega
  | providerEnd established =>
    apply hunchanged
    rw [openUnanswered, if_neg (by decide), openUnanswered, if_pos established, hcond,
      List.length_nil]
  | @reconnect which closing =>
    apply hunchanged
    have hnot : (loop.streams which).connection ≠ .established := by rw [closing]; decide
    rw [openUnanswered_makeConnectionToAgent hnot, openUnanswered_of_not_established hnot]
  | @connectFailed which connecting =>
    apply hunchanged
    have hnot : (loop.streams which).connection ≠ .established := by rw [connecting]; decide
    rw [openUnanswered_makeConnectionToAgent hnot, openUnanswered_of_not_established hnot]
  | @connected which connecting =>
    apply hunchanged
    have hnot : (loop.streams which).connection ≠ .established := by rw [connecting]; decide
    rw [openUnanswered_of_not_established hnot, openUnanswered_of_established rfl, hqueued _ hnot,
      ((hframes _).quiet hnot).1]
    rfl
  | admitted => rfl
  | refuse => rfl
  | wait => rfl
  | clientEnd => rfl
  | closed => rfl
  | returned => rfl

end

/-- What holds in every state of a run in which nothing is lost. -/
structure Counted (w : World) : Prop where
  ends : 0 < w.shared.lb.numOfEnds
  frames : ∀ tid, tid < eventLoopNum → CarriesFrames (w.loops tid)
  queued : ∀ tid, tid < eventLoopNum → NothingQueued (w.loops tid)
  remain : ∀ which, w.shared.lb.remain which = inFlight w which

lemma inFlight_update {w : World} {tid : Nat} (htid : tid < eventLoopNum) (loop : WorkLoop)
    (shared : Shared) (which : Nat) :
    (inFlight { w with shared := shared, loops := Function.update w.loops tid loop } which : Int) =
      inFlight w which - openUnanswered ((w.loops tid).streams which) +
        openUnanswered (loop.streams which) := by
  have hsum := sum_range_update (fun loop : WorkLoop => openUnanswered (loop.streams which))
    w.loops htid loop
  unfold inFlight
  simp only at hsum ⊢
  omega

lemma counted_step {env : Environment} {w w' : World} {e : Nat × Event} (h : Counted w)
    (hstep : StepIf env (LosesNothing env) w e w') : Counted w' := by
  obtain ⟨hworld, hcond⟩ := hstep
  obtain ⟨htid, shared, loop, hloop, rfl⟩ := step_cases hworld
  refine ⟨?_, ?_, ?_, ?_⟩
  · rw [numOfEnds_step hloop]
    exact h.ends
  · have hframes := carriesFrames_step (h.frames _ htid)
      (hcond.endsAnswered.endsEmpty (h.frames _ htid) _) hloop
    exact (Function.forall_update_iff w.loops fun tid loop => tid < eventLoopNum →
      CarriesFrames loop).mpr ⟨fun _ => hframes, fun tid _ => h.frames tid⟩
  · have hqueued := nothingQueued_step h.ends (h.queued _ htid) hcond hloop
    exact (Function.forall_update_iff w.loops fun tid loop => tid < eventLoopNum →
      NothingQueued loop).mpr ⟨fun _ => hqueued, fun tid _ => h.queued tid⟩
  · intro which
    have hbalance := remain_step h.ends (h.frames _ htid) (h.queued _ htid) hcond hloop which
    have hremain := h.remain which
    rw [inFlight_update htid]
    simp only
    omega

/-- In every run in which no connection ends with unanswered requests and no request is
dispatched to a connection that is not open, the counter of an endpoint is the number of
requests in flight to it. -/
theorem remain_eq_inFlight (env : Environment) (n : Nat) (hn : 0 < n) (startTime : Int)
    (raw : Nat → Nat → Mem UInt8) (es : List (Nat × Event)) (w : World)
    (h : Run (StepIf env (LosesNothing env)) (consumer n startTime raw) es w) (which : Nat) :
    w.shared.lb.remain which = inFlight w which := by
  have hinv : Counted w := by
    refine h.invariant (fun _ _ _ hw hstep => counted_step hw hstep) ⟨hn, ?_, ?_, ?_⟩
    · exact fun tid _ => carriesFrames_start tid _
    · exact fun _ _ _ _ => rfl
    · exact fun _ => rfl
  exact hinv.remain which

lemma inFlight_of_loop_run {s : Shared × WorkLoop} (stream : ProviderStream)
    (hstream : s.2.streams 0 = stream) :
    inFlight { consumer 1 0 (fun _ _ _ => 0) with
      shared := s.1
      loops := Function.update (consumer 1 0 (fun _ _ _ => 0)).loops 0 s.2 } 0 =
    openUnanswered stream := by
  simp [inFlight, eventLoopNum, Finset.sum_range_succ, hstream, consumer, startWorkEventLoop,
    openUnanswered]

/-- One request is in flight and counted. -/
theorem remain_eq_inFlight_one :
    ∃ es w, Run (StepIf (postEnvironment ['3']) (LosesNothing (postEnvironment ['3'])))
        (consumer 1 0 (fun _ _ _ => 0)) es w ∧
      inFlight w 0 = 1 ∧ w.shared.lb.remain 0 = 1 := by
  obtain ⟨s, hstart, hserved⟩ := freshLoop_served _ (LosesNothing (postEnvironment ['3']))
    (fun _ _ => trivial) (fun _ _ => trivial)
  obtain ⟨t, hfirst, ht, -⟩ := served_first [97, 61, 98] (LosesNothing (postEnvironment ['3']))
    (acceptsHeader_post ['3'] (by decide) (by decide)) (by decide) hserved (by
      intro _ which hleast
      have hlt := hleast.lt
      rw [hserved.numOfEnds] at hlt
      have hzero : which = 0 := by omega
      rw [hzero, hserved.stream])
  have hrun := run_of_loop_run (w := consumer 1 0 (fun _ _ _ => 0)) (by decide)
    (hstart.append hfirst)
  have hone : openUnanswered ⟨.established, [0], [], []⟩ = 1 := rfl
  have hcount := inFlight_of_loop_run _ ht.stream
  refine ⟨_, _, hrun, hcount.trans hone, ?_⟩
  rw [remain_eq_inFlight (postEnvironment ['3']) 1 (by decide) 0 (fun _ _ _ => 0) _ _ hrun 0,
    hcount, hone]
  rfl

/-- The connection ends before the answer: the request is lost and stays counted. -/
theorem remain_leaks :
    ∃ es w, Run (StepIf (postEnvironment ['3']) (fun _ _ _ => True))
        (consumer 1 0 (fun _ _ _ => 0)) es w ∧
      (∀ tid, tid < eventLoopNum → (w.loops tid).reading = none) ∧
      w.shared.lb.remain 0 = 1 ∧ inFlight w 0 = 0 := by
  obtain ⟨s, hstart, hserved⟩ := freshLoop_served _ (fun _ _ _ => True) (fun _ _ => trivial)
    (fun _ _ => trivial)
  obtain ⟨t, hfirst, ht, hlb⟩ := served_first [97, 61, 98] (fun _ _ _ => True)
    (acceptsHeader_post ['3'] (by decide) (by decide)) (by decide) hserved trivial
  have hguard : ¬ (t.2.reading ≠ none ∨ (t.2.streams 0).connection ≠ .established) := by
    rw [ht.idle, ht.stream]
    simp
  have hend : Run (LoopStepIf (postEnvironment ['3']) 0 (fun _ _ _ => True)) t [.providerEnd 0]
      (t.1, { t.2.setStream 0 ⟨.closing, [], [], []⟩ with
        evLoop := t.2.evLoop.setEndpoint 0
          { t.2.evLoop.server.endpointServers 0 with connStatus := -1 } }) := by
    refine .single ⟨?_, trivial⟩
    rw [WorkLoop.step, WorkLoop.providerEnd, if_neg hguard]
    rfl
  have hrun := run_of_loop_run (w := consumer 1 0 (fun _ _ _ => 0)) (by decide)
    ((hstart.append hfirst).append hend)
  refine ⟨_, _, hrun, ?_, ?_, inFlight_of_loop_run ⟨.closing, [], [], []⟩ ?_⟩
  · intro tid htid
    by_cases hzero : tid = 0
    · subst hzero
      simp only [Function.update_self]
      exact ht.idle
    · simp only [Function.update_of_ne hzero]
      rfl
  · simp only [hlb, LoadBalancer.remain_addRemain, if_true, hserved.remain]
    rfl
  · simp only [WorkLoop.setStream, Function.update_self]

end MeshAgent.Proofs
