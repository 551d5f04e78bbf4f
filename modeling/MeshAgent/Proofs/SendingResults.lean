import MeshAgent.Proofs.BodyDecoding
import MeshAgent.Proofs.SendingMesh

/-!
# Results end to end

Whatever the order in which the event loops, their streams, the relays and Dubbo take their
steps, every client gets the results of its own requests, and Dubbo executes no request twice.
Seen from the consumer agent, the relays and Dubbo are the provider agents that it expects. As
long as nothing unanswered is given up, no request is lost.
-/

namespace MeshAgent.Proofs
open MeshAgent.Foundations MeshAgent.Model

/-- The form of a call with the parameter `x`. -/
def oneCall : List FormField := requestFields [120] (by decide)

lemma formRequest_oneCall : FormRequest oneCall where
  ne_nil := by decide
  count := by decide
  valid := by
    intro f hf
    apply percentValid_of_notMem
    revert f
    decide
  length_le := by decide
  fits := by decide

/-- The endpoint is reached, and a client arrives. -/
def arrivals : List (Nat × SendingEvent) :=
  [(0, .mesh (.agent (.connected 0))),
    (0, .mesh (.agent (.accept (fun _ => 0) (fun _ => 0) 0 0 0)))]

/-- The client sends the form. -/
def oneForm : Nat × SendingEvent :=
  (0, .mesh (.agent (.clientRead 0 (postHeader ['5', '5'] ++ formBody oneCall) 0 0)))

/-- The form goes to Dubbo in two pieces, and the result `4` comes back. -/
def oneRound : List (Nat × SendingEvent) :=
  [(0, .transmit 0 20 (fun _ => 0)), (0, .mesh (.relayStarts 0 (fun _ => 0) (fun _ => 0))),
    (0, .transmit 0 47 (fun _ => 0)), (0, .written 0),
    (0, .mesh (.relayReads1 0 (intToFourChar 55 ++ longTo8bytes 0 ++ formBody oneCall)
      (fun _ => 0))),
    (0, .mesh (.dubboReads 0)), (0, .mesh (.dubboAnswers 0 0 [52])),
    (0, .mesh (.relayReads2 0 resultOf (fun _ => 0))),
    (0, .mesh (.agent (.replyRead 0 (replyFrame 0 (httpResponse [52]))))),
    (0, .mesh (.agent (.replyPass 0))), (0, .mesh (.agent (.replyPass 0))),
    (0, .transmit 1 40 (fun _ => 0)), (0, .written 1)]
where
  resultOf : List UInt8 :=
    [0xda, 0xbb, 6, 20, 0, 0, 0, 0, 0, 0, 0, 0, 0, 0, 0, 4, 49, 10, 52, 10]

def freshMesh : SendingMesh := startSendingMesh (consumer 1 0 (fun _ _ _ => 0))

/-- The steps that spare the writes, computed. -/
def sparingStep (s : SendingMesh) (e : Nat × SendingEvent) : Option SendingMesh :=
  if SparesWrites (s.sendingLoop e.1) e.2 then s.step .plain (postEnvironment ['5', '5']) e
  else none

/-- The client waits for the result of its first request, and nothing has been transmitted. -/
structure OneWaits (s : SendingMesh) : Prop where
  active : Active (s.world.loops 0) 0
  asked : (s.outside 0).asked 0 = [0]
  got : (s.outside 0).got 0 = []
  unsent : unsentTo (.client 0) (s.writes 0) = []
  counter : (s.world.loops 0).evLoop.server.reqId = 2
  counter1 : (s.world.loops 1).evLoop.server.reqId = 1
  waits : 0 ∈ unanswered ((s.world.loops 0).streams 0)
  reached : ((s.world.loops 0).streams 0).connection = .established

/-- The client has got its result. -/
structure OneServed (s : SendingMesh) : Prop where
  active : Active (s.world.loops 0) 0
  got : (s.outside 0).got 0 = [httpResponse [52]]
  unsent : unsentTo (.client 0) (s.writes 0) = []
  executed : (s.outside 0).executed = [(dubboPackage oneCall 0, [52])]
  request : (s.outside 0).request 0 = postHeader ['5', '5'] ++ formBody oneCall

lemma sendingStepIf_sparing {s s' : SendingMesh} {e : Nat × SendingEvent}
    (h : sparingStep s e = some s') (hcond : ∀ event ∈ meshEvents e.2, MeshServiceCond
      (postEnvironment ['5', '5']) s.world.shared ⟨s.world.loops e.1, s.outside e.1⟩ event) :
    SendingStepIf .plain (postEnvironment ['5', '5']) MeshServiceCond s e s' := by
  unfold sparingStep at h
  split at h
  · next hspares => exact ⟨h, hspares, hcond⟩
  · simp at h

lemma oneRequest_run : ∃ s, (arrivals ++ [oneForm]).foldlM sparingStep freshMesh = some s ∧
    Run (SendingStepIf .plain (postEnvironment ['5', '5']) MeshServiceCond) freshMesh
      (arrivals ++ [oneForm]) s ∧ OneWaits s := by
  obtain ⟨s₁, harrivals, hrecord, hparsed, howner⟩ : ∃ s₁,
      arrivals.foldlM sparingStep freshMesh = some s₁ ∧
      (s₁.world.loops 0).evLoop.reqs 0 = some freshRequest ∧
      freshRequest.requestLength < 0 ∧ ∀ id, (s₁.world.loops 0).owner id = none :=
    ⟨(arrivals.foldlM sparingStep freshMesh).getD freshMesh, rfl, rfl, by decide, fun _ => rfl⟩
  have hfirst : Run (SendingStepIf .plain (postEnvironment ['5', '5']) MeshServiceCond) freshMesh
      arrivals s₁ := by
    refine .of_foldlM_mem ?_ harrivals
    intro e he s t hstep
    apply sendingStepIf_sparing hstep
    simp only [arrivals, List.mem_cons, List.not_mem_nil, or_false] at he
    rcases he with rfl | rfl
    all_goals
      rintro _ (_ | ⟨_, ⟨⟩⟩)
      exact ⟨⟨trivial, trivial⟩, trivial⟩
  have hopen : (arrivals.foldlM sparingStep freshMesh).map (fun s =>
      (dispatched (postEnvironment ['5', '5']) s.world.shared (s.world.loops 0)
        (.clientRead 0 (postHeader ['5', '5'] ++ formBody oneCall) 0 0)).map
          fun d => ((s.world.loops 0).streams d.2.endpoint).connection) =
      some (some .established) := by
    decide +kernel
  have hlists : ((arrivals ++ [oneForm]).foldlM sparingStep freshMesh).map (fun s =>
      ((s.outside 0).asked 0, unanswered ((s.world.loops 0).streams 0), (s.outside 0).got 0,
        unsentTo (.client 0) (s.writes 0))) = some ([0], [0], [], []) := by
    decide +kernel
  have hvalues : ((arrivals ++ [oneForm]).foldlM sparingStep freshMesh).map (fun s =>
      ((((s.world.loops 0).evLoop.reqs 0).isSome, (s.world.loops 0).closing 0),
        (s.world.loops 0).evLoop.server.reqId, (s.world.loops 1).evLoop.server.reqId,
        ((s.world.loops 0).streams 0).connection)) =
      some ((true, false), 2, 1, .established) := by
    decide +kernel
  obtain ⟨s, hform, hstate⟩ := Option.map_eq_some_iff.mp hvalues
  rw [hform, Option.map_some, Option.some.injEq] at hlists
  simp only [Prod.mk.injEq] at hlists hstate
  obtain ⟨hasked, hwaits, hgot, hunsent⟩ := hlists
  obtain ⟨⟨hrecorded, hstaying⟩, hcounter, hcounter1, hreached⟩ := hstate
  have hform' := hform
  simp only [List.foldlM_append, harrivals, List.foldlM_cons, List.foldlM_nil, Option.bind_eq_bind,
    Option.bind_some, Option.bind_eq_some_iff] at hform'
  obtain ⟨_, hlast, ⟨⟩⟩ := hform'
  rw [harrivals, Option.map_some, Option.some.injEq] at hopen
  refine ⟨s, hform, hfirst.snoc (sendingStepIf_sparing hlast ?_), ⟨hrecorded, hstaying⟩, hasked,
    hgot, hunsent, hcounter, hcounter1, by rw [hwaits]; simp, hreached⟩
  rintro _ (_ | ⟨_, ⟨⟩⟩)
  refine ⟨⟨?_, ?_⟩, ?_⟩
  · intro _ which id hmem
    obtain ⟨client, howns, -⟩ := (allHold_sending (by decide) (ret_postEnvironment_le _)
      (hfirst.mono fun _ _ _ h => ⟨h.1, h.2.1, fun event hevent => (h.2.2 event hevent).1⟩) 0
      (by decide)).loop.last which id hmem
    exact absurd howns (by rw [CopiedMesh.meshLoop, copiedMesh, howner]; simp)
  · intro _
    refine ⟨freshRequest, postHeader ['5', '5'], oneCall, hrecord, hparsed, ?_,
      acceptsHeader_post ['5', '5'] (by decide) (by decide), formRequest_oneCall⟩
    simp only [receivedBytes, oneForm, hrecord]
    rfl
  · intro d hd
    simp only [oneForm] at hd ⊢
    rw [hd, Option.map_some, Option.some.injEq] at hopen
    rw [hopen]
    decide

lemma oneRound_run {s : SendingMesh}
    (h : (arrivals ++ [oneForm]).foldlM sparingStep freshMesh = some s) :
    ∃ s', Run (SendingStepIf .plain (postEnvironment ['5', '5']) MeshServiceCond) s oneRound s' ∧
      OneServed s' := by
  have hends : (((arrivals ++ [oneForm]) ++ oneRound).foldlM sparingStep freshMesh).map (fun s =>
      ((s.outside 0).got 0, unsentTo (.client 0) (s.writes 0),
        ((s.world.loops 0).evLoop.reqs 0).isSome, (s.world.loops 0).closing 0)) =
      some ([httpResponse [52]], [], true, false) := by
    decide +kernel
  have hdubbo : (((arrivals ++ [oneForm]) ++ oneRound).foldlM sparingStep freshMesh).map (fun s =>
      ((s.outside 0).executed, (s.outside 0).request 0)) =
      some ([(dubboPackage oneCall 0, [52])], postHeader ['5', '5'] ++ formBody oneCall) := by
    decide +kernel
  obtain ⟨s', hround, hresult⟩ := Option.map_eq_some_iff.mp hends
  rw [hround, Option.map_some, Option.some.injEq] at hdubbo
  simp only [Prod.mk.injEq] at hdubbo hresult
  obtain ⟨hexecuted, hrequest⟩ := hdubbo
  obtain ⟨hgot, hunsent, hrecorded, hstaying⟩ := hresult
  rw [List.foldlM_append, h, Option.bind_eq_bind, Option.bind_some] at hround
  refine ⟨s', .of_foldlM_mem ?_ hround, ⟨⟨hrecorded, hstaying⟩, hgot, hunsent, hexecuted, hrequest⟩⟩
  intro e he s t hstep
  apply sendingStepIf_sparing hstep
  simp only [oneRound, List.mem_cons, List.not_mem_nil, or_false] at he
  rcases he with rfl | rfl | rfl | rfl | rfl | rfl | rfl | rfl | rfl | rfl | rfl | rfl | rfl
  case inr.inr.inr.inr.inr.inr.inl =>
    rintro _ (_ | ⟨_, ⟨⟩⟩)
    exact ⟨show 1 ≤ 99 by decide, trivial⟩
  all_goals
    rintro _ (_ | ⟨_, ⟨⟩⟩)
  all_goals first
    | exact ⟨trivial, trivial⟩
    | exact ⟨⟨trivial, trivial⟩, trivial⟩

lemma wholeRound_run : ∃ es s,
    Run (SendingStepIf .plain (postEnvironment ['5', '5']) MeshServiceCond) freshMesh es s ∧
      OneServed s := by
  obtain ⟨s, hfold, hask, -⟩ := oneRequest_run
  obtain ⟨s', hround, hserved⟩ := oneRound_run hfold
  exact ⟨_, s', hask.append hround, hserved⟩

lemma loopCond_of_serviceCond {b : Build} {env : Environment} {s t : SendingMesh}
    {es : List (Nat × SendingEvent)} (h : Run (SendingStepIf b env MeshServiceCond) s es t) :
    Run (SendingStepIf b env MeshLoopCond) s es t :=
  h.mono fun _ _ _ h => ⟨h.1, h.2.1, fun event hevent => (h.2.2 event hevent).1⟩

/-- In every run of the mesh, whatever the order of its steps and the cutting of its streams,
what each client has got are results that Dubbo gave for the client's own requests, one for each
of the requests `served` and in the order in which it has sent them; the last bytes may be still
to come. -/
theorem clients_get_own_results (b : Build) (hb : b ≠ .bmi) (env : Environment)
    (hparse : ∀ bytes, (env.phrParseRequest bytes).ret ≤ bytes.length) (n : Nat) (startTime : Int)
    (raw : Nat → Nat → Mem UInt8) (es : List (Nat × SendingEvent)) (s : SendingMesh)
    (h : Run (SendingStepIf b env MeshLoopCond) (startSendingMesh (consumer n startTime raw)) es s)
    (tid : Nat) (htid : tid < eventLoopNum) (client : Nat) :
    ((s.outside tid).asked client).Pairwise (· < ·) ∧
    ∃ served responses, served.Sublist ((s.outside tid).asked client) ∧
      List.Forall₂ (ServedWith env (s.outside tid)) responses served ∧
      ((s.outside tid).got client).flatten <+: responses.flatten := by
  have hwrites := (copiedMesh_run hparse seesNoBytes_meshLoopCond h).1 tid htid
  have hclient := (allHold_sending hb hparse h tid htid).clients client
  obtain ⟨served, hsub, hgot, -⟩ := hclient.served
  refine ⟨hclient.sorted, served, _, hsub, servedWith_keep hgot
    fun id _ => keeps_allSent _ _ id, ?_⟩
  exact (List.prefix_append _ _).trans (hwrites.pieces client)

theorem clients_get_own_results_one :
    ∃ es s, Run (SendingStepIf .plain (postEnvironment ['5', '5']) MeshLoopCond) freshMesh es s ∧
      ∃ served responses, served.Sublist ((s.outside 0).asked 0) ∧
        List.Forall₂ (ServedWith (postEnvironment ['5', '5']) (s.outside 0)) responses served ∧
        httpResponse [52] <+: responses.flatten := by
  obtain ⟨es, s, hrun, hstate⟩ := wholeRound_run
  have hrun' := loopCond_of_serviceCond hrun
  obtain ⟨-, served, responses, hsub, hserved, hgot⟩ := clients_get_own_results .plain (by decide) _
    (ret_postEnvironment_le _) 1 0 _ es s hrun' 0 (by decide) 0
  rw [hstate.got, List.flatten_singleton] at hgot
  exact ⟨es, s, hrun', served, responses, hsub, hserved, hgot⟩

/-- In every run of the mesh Dubbo answers only packages for what clients have sent, and no
request twice. -/
theorem dubbo_executes_once (b : Build) (hb : b ≠ .bmi) (env : Environment)
    (hparse : ∀ bytes, (env.phrParseRequest bytes).ret ≤ bytes.length) (n : Nat) (startTime : Int)
    (raw : Nat → Nat → Mem UInt8) (es : List (Nat × SendingEvent)) (s : SendingMesh)
    (h : Run (SendingStepIf b env MeshLoopCond) (startSendingMesh (consumer n startTime raw)) es s)
    (tid : Nat) (htid : tid < eventLoopNum) :
    (executedIds (s.outside tid)).Nodup ∧
    ∀ package result, (package, result) ∈ (s.outside tid).executed →
      ∃ client, ∃ id ∈ (s.outside tid).asked client, ∃ fs, Asks env (s.outside tid) id fs ∧
        package = dubboPackage fs id := by
  have hdubbo := (allHold_sending hb hparse h tid htid).dubbo
  refine ⟨hdubbo.once, fun package result hmem => ?_⟩
  obtain ⟨client, id, hid, fs, hasks, hpackage⟩ := hdubbo.asked (package, result) hmem
  exact ⟨client, id, hid, fs, hasks.keep (keeps_allSent _ _ id), hpackage⟩

theorem dubbo_executes_once_one :
    ∃ es s, Run (SendingStepIf .plain (postEnvironment ['5', '5']) MeshLoopCond) freshMesh es s ∧
      ∃ client, ∃ id ∈ (s.outside 0).asked client, ∃ fs,
        Asks (postEnvironment ['5', '5']) (s.outside 0) id fs ∧
          dubboPackage oneCall 0 = dubboPackage fs id := by
  obtain ⟨es, s, hrun, hstate⟩ := wholeRound_run
  have hrun' := loopCond_of_serviceCond hrun
  exact ⟨es, s, hrun', (dubbo_executes_once .plain (by decide) _ (ret_postEnvironment_le _) 1 0 _
    es s hrun' 0 (by decide)).2 _ [52] (by rw [hstate.executed]; simp)⟩

/-- The callbacks that a step shows at the consumer agent. -/
def callbacksShown (e : Nat × SendingEvent) : List (Nat × Event) :=
  ((meshEvents e.2).flatMap meshCallbacks).map (Prod.mk e.1)

/-- Every run of the mesh is a run of the consumer agent alone, with the same callbacks in the
same order and answers of provider agents in between. -/
theorem mesh_refines_consumer (b : Build) (hb : b ≠ .bmi) (env : Environment)
    (hparse : ∀ bytes, (env.phrParseRequest bytes).ret ≤ bytes.length) (n : Nat) (startTime : Int)
    (raw : Nat → Nat → Mem UInt8) (es : List (Nat × SendingEvent)) (s : SendingMesh)
    (h : Run (SendingStepIf b env MeshLoopCond)
      (startSendingMesh (consumer n startTime raw)) es s) :
    ∃ es', Run (StepIf env (TakesTurns env)) (consumer n startTime raw) es' s.world ∧
      es'.flatMap (fun e => (callbacksOf e.2).map (Prod.mk e.1)) = es.flatMap callbacksShown := by
  obtain ⟨es', hrun, hshown⟩ :=
    consumer_run_of_mesh hb (copiedMesh_run hparse seesNoBytes_meshLoopCond h).2
  refine ⟨es', hrun, hshown.trans ?_⟩
  rw [List.flatMap_assoc]
  refine congrArg (List.flatMap · es) (funext fun e => ?_)
  rw [List.flatMap_map, callbacksShown, List.map_flatMap]

theorem mesh_refines_consumer_one :
    ∃ es s es',
      Run (SendingStepIf .plain (postEnvironment ['5', '5']) MeshLoopCond) freshMesh es s ∧
      (s.outside 0).got 0 = [httpResponse [52]] ∧
      Run (StepIf (postEnvironment ['5', '5']) (TakesTurns (postEnvironment ['5', '5'])))
        (consumer 1 0 (fun _ _ _ => 0)) es' s.world := by
  obtain ⟨es, s, hrun, hstate⟩ := wholeRound_run
  have hrun' := loopCond_of_serviceCond hrun
  obtain ⟨es', hconsumer, -⟩ := mesh_refines_consumer .plain (by decide) _
    (ret_postEnvironment_le _) 1 0 _ es s hrun'
  exact ⟨es, s, es', hrun', hstate.got, hconsumer⟩

lemma meshServes_sending {b : Build} {env : Environment} {n : Nat} {startTime : Int}
    {raw : Nat → Nat → Mem UInt8} {es : List (Nat × SendingEvent)} {s : SendingMesh} (hb : b ≠ .bmi)
    (hparse : ∀ bytes, (env.phrParseRequest bytes).ret ≤ bytes.length)
    (h : Run (SendingStepIf b env MeshServiceCond)
      (startSendingMesh (consumer n startTime raw)) es s)
    {tid : Nat} (htid : tid < eventLoopNum) : MeshServes env tid (asCopied (s.sendingLoop tid)) :=
  mesh_loops_invariant (I := fun tid m => MeshServes env tid m)
    (fun _ _ _ _ _ _ _ _ hm hcond hstep => meshServes_step hb hm hcond hstep)
    (fun _ htid => meshServes_start env htid _)
    (copiedMesh_run hparse seesNoBytes_meshServiceCond h).2 tid htid

/-- In every run in which nothing that is unanswered is given up, whatever the order of its
steps, a client that stays has got the results of all the requests that it has sent, up to what
is still queued for it, except for at most one request, which is unanswered on a connection. -/
theorem no_request_lost (b : Build) (hb : b ≠ .bmi) (env : Environment)
    (hparse : ∀ bytes, (env.phrParseRequest bytes).ret ≤ bytes.length) (n : Nat) (startTime : Int)
    (raw : Nat → Nat → Mem UInt8) (es : List (Nat × SendingEvent)) (s : SendingMesh)
    (h : Run (SendingStepIf b env MeshServiceCond)
      (startSendingMesh (consumer n startTime raw)) es s)
    (tid : Nat) (htid : tid < eventLoopNum) (client : Nat)
    (hactive : Active (s.world.loops tid) client) :
    ∃ served waiting responses, (s.outside tid).asked client = served ++ waiting ∧
      List.Forall₂ (ServedWith env (s.outside tid)) responses served ∧
      ((s.outside tid).got client).flatten ++ unsentTo (.client client) (s.writes tid) =
        responses.flatten ∧
      waiting.length ≤ 1 ∧ ∀ id ∈ waiting, Waiting (s.world.loops tid) id := by
  have hwrites := (copiedMesh_run hparse seesNoBytes_meshServiceCond h).1 tid htid
  have hserves := meshServes_sending hb hparse h htid
  obtain ⟨served, waiting, hasked, hgot, -, hwaits⟩ := hserves.served client hactive
  exact ⟨served, waiting, _, hasked, servedWith_keep hgot fun id _ => keeps_allSent _ _ id,
    hwrites.staying client (.inl hactive), waiting_length_le hserves.holds hasked hwaits, hwaits⟩

theorem no_request_lost_one :
    ∃ es s, Run (SendingStepIf .plain (postEnvironment ['5', '5']) MeshServiceCond) freshMesh es s ∧
      ∃ served waiting responses, (s.outside 0).asked 0 = served ++ waiting ∧
        List.Forall₂ (ServedWith (postEnvironment ['5', '5']) (s.outside 0)) responses served ∧
        httpResponse [52] = responses.flatten ∧
        waiting.length ≤ 1 ∧ ∀ id ∈ waiting, Waiting (s.world.loops 0) id := by
  obtain ⟨es, s, hrun, hstate⟩ := wholeRound_run
  obtain ⟨served, waiting, responses, hasked, hserved, hgot, hwaiting⟩ := no_request_lost .plain
    (by decide) _ (ret_postEnvironment_le _) 1 0 _ es s hrun 0 (by decide) 0 hstate.active
  rw [hstate.got, hstate.unsent, List.flatten_singleton, List.append_nil] at hgot
  exact ⟨es, s, hrun, served, waiting, responses, hasked, hserved, hgot, hwaiting⟩

end MeshAgent.Proofs
