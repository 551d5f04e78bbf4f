import MeshAgent.Proofs.SendingResults

/-!
# A call through the mesh is a call of the service

A client sends the four strings of a call as a form; Dubbo reads them from the package that it
receives and answers with the result of the service. What the client gets back is this result:
the agents in between cannot be told from calling the service.
-/

namespace MeshAgent.Proofs
open MeshAgent.Foundations MeshAgent.Model

section

variable {α : Type*} {a : α} {x y z w : List α}

lemma cut_at_first (hx : a ∉ x) (hy : a ∉ y) (h : x ++ a :: z = y ++ a :: w) : x = y ∧ z = w := by
  induction x generalizing y with
  | nil =>
    cases y with
    | nil => exact ⟨rfl, (List.cons.inj h).2⟩
    | cons b y =>
      rw [List.nil_append, List.cons_append, List.cons.injEq] at h
      exact absurd (h.1 ▸ List.mem_cons_self) hy
  | cons b x ih =>
    cases y with
    | nil =>
      rw [List.nil_append, List.cons_append, List.cons.injEq] at h
      exact absurd (h.1 ▸ List.mem_cons_self) hx
    | cons c y =>
      rw [List.cons_append, List.cons_append, List.cons.injEq] at h
      obtain ⟨rfl, hrest⟩ := ih (fun hmem => hx (List.mem_cons_of_mem _ hmem))
        (fun hmem => hy (List.mem_cons_of_mem _ hmem)) h.2
      exact ⟨by rw [h.1], hrest⟩

end

lemma FormField.eq_of_parts {f g : FormField} (hkey : f.key = g.key) (hvalue : f.value = g.value) :
    f = g := by
  cases f
  cases g
  cases hkey
  cases hvalue
  rfl

lemma formBody_injective {fs gs : List FormField} (hfs : fs ≠ []) (hgs : gs ≠ [])
    (h : formBody fs = formBody gs) : fs = gs := by
  induction fs generalizing gs with
  | nil => exact absurd rfl hfs
  | cons f fs ih =>
    cases gs with
    | nil => exact absurd rfl hgs
    | cons g gs =>
      obtain ⟨post, hbody, hpost⟩ := formBody_cons f fs
      obtain ⟨post', hbody', hpost'⟩ := formBody_cons g gs
      rw [hbody, hbody'] at h
      obtain ⟨hkey, hrest⟩ := cut_at_first f.key_eq g.key_eq h
      rcases hpost with ⟨rfl, rfl⟩ | ⟨hne, rfl⟩
      · rcases hpost' with ⟨rfl, rfl⟩ | ⟨-, rfl⟩
        · rw [List.append_nil, List.append_nil] at hrest
          rw [FormField.eq_of_parts hkey hrest]
        · rw [List.append_nil] at hrest
          exact absurd (by rw [hrest]; simp) f.value_amp
      · rcases hpost' with ⟨rfl, rfl⟩ | ⟨hne', rfl⟩
        · rw [List.append_nil] at hrest
          exact absurd (by rw [← hrest]; simp) g.value_amp
        · obtain ⟨hvalue, hrest'⟩ := cut_at_first f.value_amp g.value_amp hrest
          rw [FormField.eq_of_parts hkey hvalue, ih hne hne' hrest']

section

variable {env : Environment} {o : Outside} {id : Nat}

lemma Asks.unique {fs gs : List FormField} (hf : Asks env o id fs) (hg : Asks env o id gs) :
    fs = gs := by
  obtain ⟨hdr, haccept, hreceived⟩ := hf.received
  obtain ⟨hdr', haccept', hreceived'⟩ := hg.received
  obtain ⟨v, digits, c, rest, hparse, -⟩ := haccept.complete
  obtain ⟨v', digits', c', rest', hparse', -⟩ := haccept'.complete
  have hsame : hdr ++ formBody fs = hdr' ++ formBody gs := hreceived.symm.trans hreceived'
  have hlen : (hdr.length : Int) = hdr'.length := by
    have h := hparse (formBody fs)
    rw [hsame, hparse'] at h
    exact (congrArg ParseResult.ret h).symm
  exact formBody_injective hf.form.ne_nil hg.form.ne_nil
    (List.append_inj hsame (by exact_mod_cast hlen)).2

end

structure RemoteCall where
  interface : List UInt8
  method : List UInt8
  parameterTypesString : List UInt8
  parameter : List UInt8

/-- The form that a client has sent for an id carries the call, in plain bytes. -/
def Makes (env : Environment) (o : Outside) (id : Nat) (call : RemoteCall) : Prop :=
  ∃ fs, Asks env o id fs ∧
    CarriesRequest fs call.interface call.method call.parameterTypesString call.parameter ∧
    ∀ c ∈ call.method ++ (call.parameterTypesString ++ call.parameter), JsonPlain c

/-- Dubbo reads the call from the package, behind its 16-byte header. -/
def ReadsCall (package : List UInt8) (call : RemoteCall) : Prop :=
  ReadsBack (package.drop 16) call.interface call.method call.parameterTypesString call.parameter

/-- Dubbo answers a call with the result of the service. -/
def AnswersCalls (serve : RemoteCall → List UInt8) (m : MeshLoop) : MeshEvent → Prop
  | .dubboAnswers which i result =>
    ∀ package, (m.outside.links which).received[i]? = some package →
      ∀ call, ReadsCall package call → result = serve call
  | _ => True

def CallCond (serve : RemoteCall → List UInt8) (env : Environment) (shared : Shared)
    (m : MeshLoop) (e : MeshEvent) : Prop :=
  MeshServiceCond env shared m e ∧ AnswersCalls serve m e

/-- What Dubbo has answered are results of the service. -/
def ExecutesCalls (serve : RemoteCall → List UInt8) (o : Outside) : Prop :=
  ∀ package result, (package, result) ∈ o.executed → ∀ call, ReadsCall package call →
    result = serve call

section

variable {serve : RemoteCall → List UInt8} {b : Build} {env : Environment} {startTime : Int}
  {shared shared' : Shared} {m m' : MeshLoop} {o : Outside} {id : Nat}

lemma executed_agent {e : Event} (h : m.copiedAgent env startTime shared e = some (shared', m')) :
    m'.outside.executed = m.outside.executed := by
  have hnote : ∀ (o : Outside) q, (o.copyWrite q).executed = o.executed := by
    intro o q
    unfold Outside.copyWrite
    cases q.stream <;> rfl
  have hnotes : ∀ (writes : List UvWrite) (o : Outside),
      (writes.foldl Outside.copyWrite o).executed = o.executed := by
    intro writes
    induction writes with
    | nil => exact fun _ => rfl
    | cons q writes ih => exact fun o => (ih _).trans (hnote o q)
  have hrequest : (m.outside.noteRequest env shared m.loop e).executed = m.outside.executed := by
    unfold Outside.noteRequest
    split
    · rfl
    · rfl
  obtain ⟨-, loop', -, rfl⟩ := agent_eq h
  have hdrop : ∀ o : Outside, (o.dropLink e).executed = o.executed := by
    intro o
    unfold Outside.dropLink
    split
    all_goals rfl
  exact (hdrop _).trans ((hnotes _ _).trans hrequest)

lemma executesCalls_step {e : MeshEvent} (h : ExecutesCalls serve m.outside)
    (hanswers : AnswersCalls serve m e)
    (hstep : m.copiedStep b env startTime shared e = some (shared', m')) :
    ExecutesCalls serve m'.outside := by
  cases e with
  | agent e =>
    unfold ExecutesCalls
    rw [executed_agent hstep]
    exact h
  | relayStarts which raw1 raw2 =>
    simp only [MeshLoop.copiedStep, MeshLoop.beyond, Option.ite_none_left_eq_some] at hstep
    obtain ⟨link, -, hm⟩ := Option.map_eq_some_iff.mp hstep.2
    cases hm
    exact h
  | relayReads1 which chunk dubboPackage =>
    obtain ⟨link, -, hm⟩ := Option.map_eq_some_iff.mp hstep
    cases hm
    exact h
  | dubboReads which =>
    obtain ⟨link, -, hm⟩ := Option.map_eq_some_iff.mp hstep
    cases hm
    exact h
  | relayReads2 which chunk responseAll =>
    obtain ⟨link, -, hm⟩ := Option.map_eq_some_iff.mp hstep
    cases hm
    exact h
  | dubboAnswers which i result =>
    obtain ⟨⟨link, package⟩, hlink, hm⟩ := Option.map_eq_some_iff.mp hstep
    cases hm
    have hpackage : (m.outside.links which).received[i]? = some package := by
      rw [Link.dubboAnswers] at hlink
      split at hlink
      · cases hlink
      · next hget =>
        cases hlink
        exact hget
    intro package' result' hmem
    rcases List.mem_append.mp hmem with hmem | hmem
    · exact h package' result' hmem
    · cases List.mem_singleton.mp hmem
      exact hanswers _ hpackage

/-- A response to a client is the result of the call that the client has made. -/
lemma served_call (h : ExecutesCalls serve o) {response : List UInt8}
    (hserved : ServedWith env o response id) {call : RemoteCall} (hmakes : Makes env o id call) :
    response = httpResponse (serve call) := by
  obtain ⟨fs, result, hanswered, rfl⟩ := hserved
  obtain ⟨gs, hasks, hcarries, hplain⟩ := hmakes
  obtain rfl := hanswered.asks.unique hasks
  have hbody : (dubboPackage fs id).drop 16 = dubboBody fs := by
    rw [dubboPackage]
    exact List.drop_left' (by simp [dubboHeader])
  have hreads : ReadsCall (dubboPackage fs id) call := by
    unfold ReadsCall
    rw [hbody, hcarries.dubboBody_eq]
    exact (readsBack_joinLines_iff hcarries.interface_unreserved).mpr hplain
  rw [h _ _ hanswered.executed call hreads]

end

lemma seesNoBytes_callCond (serve : RemoteCall → List UInt8) : SeesNoBytes (CallCond serve) := by
  intro env shared m event writes h
  refine ⟨h.1, ?_⟩
  cases event with
  | dubboAnswers => exact h.2
  | _ => trivial

/-- If Dubbo answers calls with the results of the service, a client that stays gets, in the
order of its calls, exactly the results of the service for its calls; at most one of them is
still unanswered, and the last bytes may be queued. -/
theorem remote_calls_are_local (serve : RemoteCall → List UInt8) (b : Build) (hb : b ≠ .bmi)
    (env : Environment) (hparse : ∀ bytes, (env.phrParseRequest bytes).ret ≤ bytes.length) (n : Nat)
    (startTime : Int) (raw : Nat → Nat → Mem UInt8) (es : List (Nat × SendingEvent))
    (s : SendingMesh)
    (h : Run (SendingStepIf b env (CallCond serve))
      (startSendingMesh (consumer n startTime raw)) es s)
    (tid : Nat) (htid : tid < eventLoopNum) (client : Nat)
    (hactive : Active (s.world.loops tid) client) :
    ∃ served waiting responses, (s.outside tid).asked client = served ++ waiting ∧
      waiting.length ≤ 1 ∧
      List.Forall₂ (fun response id => ∀ call, Makes env (s.outside tid) id call →
        response = httpResponse (serve call)) responses served ∧
      ((s.outside tid).got client).flatten ++ unsentTo (.client client) (s.writes tid) =
        responses.flatten := by
  obtain ⟨hwrites, hrun⟩ := copiedMesh_run hparse (seesNoBytes_callCond serve) h
  have hserves := mesh_loops_invariant (I := fun tid m => MeshServes env tid m)
    (fun _ _ _ _ _ _ _ _ hm hcond hstep => meshServes_step hb hm hcond.1 hstep)
    (fun _ htid => meshServes_start env htid _) hrun tid htid
  have hexecutes : ExecutesCalls serve (s.outside tid) := mesh_loops_invariant
    (I := fun _ m => ExecutesCalls serve m.outside)
    (fun _ _ _ _ _ _ _ _ hm hcond hstep => executesCalls_step hm hcond.2 hstep)
    (fun _ _ => fun _ _ hmem => by cases hmem) hrun tid htid
  obtain ⟨served, waiting, hasked, hgot, -, hwaits⟩ := hserves.served client hactive
  refine ⟨served, waiting, _, hasked, waiting_length_le hserves.holds hasked hwaits,
    ?_, (hwrites tid htid).staying client (.inl hactive)⟩
  apply (servedWith_keep hgot fun id _ => keeps_allSent _ _ id).imp
  exact fun _ _ hserved _ hmakes => served_call hexecutes hserved hmakes

/-- The client calls `m` of `a`; the service answers `4` to everything. -/
theorem remote_calls_are_local_one :
    ∃ es s, Run (SendingStepIf .plain (postEnvironment ['5', '5']) (CallCond fun _ => [52]))
        freshMesh es s ∧
      Makes (postEnvironment ['5', '5']) (s.outside 0) 0 ⟨[97], [109], [116], [120]⟩ ∧
      ∃ served waiting responses, (s.outside 0).asked 0 = served ++ waiting ∧ waiting.length ≤ 1 ∧
        List.Forall₂ (fun response id => ∀ call, Makes (postEnvironment ['5', '5']) (s.outside 0) id
          call → response = httpResponse [52]) responses served ∧
        httpResponse [52] = responses.flatten := by
  obtain ⟨s, hfold, hask, -⟩ := oneRequest_run
  obtain ⟨s', hround, hserved⟩ := oneRound_run hfold
  have hrun : Run (SendingStepIf .plain (postEnvironment ['5', '5']) (CallCond fun _ => [52]))
      freshMesh ((arrivals ++ [oneForm]) ++ oneRound) s' := by
    apply (hask.append hround).mono_mem
    intro e he s t hstep
    refine ⟨hstep.1, hstep.2.1, fun event hevent => ⟨hstep.2.2 event hevent, ?_⟩⟩
    simp only [arrivals, oneForm, oneRound, List.mem_append, List.mem_cons, List.not_mem_nil,
      or_false] at he
    rcases he with ((rfl | rfl) | rfl) | rfl | rfl | rfl | rfl | rfl | rfl | rfl | rfl | rfl | rfl |
      rfl | rfl | rfl
    case inr.inr.inr.inr.inr.inr.inr.inl =>
      rw [List.mem_singleton.mp hevent]
      exact fun _ _ _ _ => rfl
    all_goals rcases hevent with _ | ⟨_, ⟨⟩⟩ <;> trivial
  have hmakes : Makes (postEnvironment ['5', '5']) (s'.outside 0) 0 ⟨[97], [109], [116], [120]⟩ :=
    ⟨oneCall, ⟨by decide, formRequest_oneCall, _,
      acceptsHeader_post ['5', '5'] (by decide) (by decide), hserved.request⟩,
      requestFields_carries (by decide) (.plain (by decide) .nil), by simp [JsonPlain]⟩
  obtain ⟨served, waiting, responses, hasked, hshort, hresults, hgot⟩ := remote_calls_are_local _
    .plain (by decide) _ (ret_postEnvironment_le _) 1 0 _ _ s' hrun 0 (by decide) 0 hserved.active
  rw [hserved.got, hserved.unsent, List.flatten_singleton, List.append_nil] at hgot
  exact ⟨_, s', hrun, hmakes, served, waiting, responses, hasked, hshort, hresults, hgot⟩

end MeshAgent.Proofs
