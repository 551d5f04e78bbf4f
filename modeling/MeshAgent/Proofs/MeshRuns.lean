import MeshAgent.Proofs.BodyDecoding
import MeshAgent.Proofs.RelaySteps

/-!
# Runs of the mesh whose writes are copied

What a step of an event loop, of a relay or of Dubbo preserves at its loop holds at all loops of
a run. Seen from the consumer agent, the relays and Dubbo are the provider agents that it
expects.
-/

namespace MeshAgent.Proofs
open MeshAgent.Foundations MeshAgent.Model

section

variable {env : Environment} {startTime : Int} {shared : Shared} {tid : Nat} {m : MeshLoop}
  {which : Nat}

/-- The clients take turns and send forms, and a result is as short as a hash. -/
def MeshLoopCond (env : Environment) (shared : Shared) (m : MeshLoop) : MeshEvent → Prop
  | .agent e => TakesTurns env shared m.loop e ∧ SendsForms env shared m.loop e
  | .dubboAnswers _ _ result => result.length ≤ 99
  | _ => True

/-- A client with a record, for which `uv_close` has not been called. -/
structure Active (loop : WorkLoop) (client : Nat) : Prop where
  record : (loop.evLoop.reqs client).isSome = true
  staying : loop.closing client = false

/-- The id is unanswered on some connection. -/
def Waiting (loop : WorkLoop) (id : Nat) : Prop := ∃ which, id ∈ unanswered (loop.streams which)

/-- No request is dispatched to a connection that is closing, a connection ends only when none
of its requests is unanswered, and a record is freed only when its client waits for nothing. -/
def GivesUpNothing (env : Environment) (shared : Shared) (m : MeshLoop) : MeshEvent → Prop
  | .agent (.clientRead client chunk stale now) =>
    ∀ d, dispatched env shared m.loop (.clientRead client chunk stale now) = some (client, d) →
      (m.loop.streams d.endpoint).connection ≠ .closing
  | .agent (.providerEnd which) | .agent (.connectFailed which) =>
    unanswered (m.loop.streams which) = []
  | .agent (.closed client) =>
    ∀ which, ∀ id ∈ unanswered (m.loop.streams which), m.loop.owner id ≠ some client
  | _ => True

def MeshServiceCond (env : Environment) (shared : Shared) (m : MeshLoop) (e : MeshEvent) : Prop :=
  MeshLoopCond env shared m e ∧ GivesUpNothing env shared m e

/-- The callbacks that a step of the mesh shows at the consumer agent. -/
def meshCallbacks : MeshEvent → List Event
  | .agent e => [e]
  | _ => []

/-- An answer of a provider agent is no callback. -/
def callbacksOf : Event → List Event
  | .answer .. => []
  | e => [e]

lemma callbacksOf_eq {e : Event} (h : ∀ which reqId payload, e ≠ .answer which reqId payload) :
    callbacksOf e = [e] := by
  cases e with
  | answer which reqId payload => exact absurd rfl (h which reqId payload)
  | _ => rfl

lemma callbacksOf_answers {es : List Event} (h : AreAnswers which es) :
    es.flatMap callbacksOf = [] := by
  rw [List.flatMap_eq_nil_iff]
  intro e he
  obtain ⟨reqId, payload, rfl⟩ := h e he
  rfl

/-- Every step of the mesh preserves what holds in it, and is a run of the consumer agent that
shows the same callbacks. -/
theorem meshHolds_step {b : Build} (hb : b ≠ .bmi) {shared' : Shared} {m' : MeshLoop}
    {e : MeshEvent}
    (h : MeshHolds env tid m) (hcond : MeshLoopCond env shared m e)
    (hstep : m.copiedStep b env startTime shared e = some (shared', m')) :
    MeshHolds env tid m' ∧ ∃ es, es.flatMap callbacksOf = meshCallbacks e ∧
      Run (LoopStepIf env startTime (TakesTurns env)) (shared, m.loop) es (shared', m'.loop) := by
  cases e with
  | agent e =>
    obtain ⟨hother, loop', hcall, rfl⟩ := agent_eq hstep
    refine ⟨meshHolds_agent h hcond.1 hcond.2 hstep, [e], ?_, .single ⟨hcall, hcond.1⟩⟩
    rw [List.flatMap_singleton, callbacksOf_eq hother]
    rfl
  | relayStarts which raw1 raw2 =>
    simp only [MeshLoop.copiedStep, MeshLoop.beyond, Option.ite_none_left_eq_some, not_not] at hstep
    obtain ⟨hopen, hstep⟩ := hstep
    obtain ⟨link, hlink, hm⟩ := Option.map_eq_some_iff.mp hstep
    cases hm
    exact ⟨meshHolds_relayStarts h hopen hlink, [], rfl, .nil _⟩
  | relayReads1 which chunk fresh =>
    obtain ⟨link, hlink, hm⟩ := Option.map_eq_some_iff.mp hstep
    cases hm
    exact ⟨meshHolds_relayReads1 h hb hlink, [], rfl, .nil _⟩
  | dubboReads which =>
    obtain ⟨link, hlink, hm⟩ := Option.map_eq_some_iff.mp hstep
    cases hm
    exact ⟨meshHolds_dubboReads h hlink, [], rfl, .nil _⟩
  | dubboAnswers which i result =>
    obtain ⟨⟨link, package⟩, hlink, hm⟩ := Option.map_eq_some_iff.mp hstep
    cases hm
    exact ⟨meshHolds_dubboAnswers h hcond hlink, [], rfl, .nil _⟩
  | relayReads2 which chunk fresh =>
    obtain ⟨⟨link, replies⟩, hlink, hm⟩ := Option.map_eq_some_iff.mp hstep
    cases hm
    obtain ⟨hholds, es, hes, hrun⟩ := relayReads2_answers h hlink
    exact ⟨hholds, es, callbacksOf_answers hes, hrun⟩

end

/-- The steps of the mesh that meet a condition. -/
def CopiedStepIf (b : Build) (env : Environment)
    (cond : Environment → Shared → MeshLoop → MeshEvent → Prop) (m : CopiedMesh)
    (e : Nat × MeshEvent) (m' : CopiedMesh) : Prop :=
  m.step b env e = some m' ∧ cond env m.world.shared (m.meshLoop e.1) e.2

section

variable {b : Build} {env : Environment} {n : Nat} {startTime : Int} {raw : Nat → Nat → Mem UInt8}
  {es : List (Nat × MeshEvent)} {m m' : CopiedMesh} {e : Nat × MeshEvent}

/-- What holds in all loops of the mesh. -/
def AllHold (env : Environment) (m : CopiedMesh) : Prop :=
  ∀ tid, tid < eventLoopNum → MeshHolds env tid (m.meshLoop tid)

lemma meshLoop_update (w : World) (outside : Nat → Outside) (shared : Shared) (tid : Nat)
    (m' : MeshLoop) (k : Nat) :
    (⟨{ w with shared := shared, loops := Function.update w.loops tid m'.loop },
      Function.update outside tid m'.outside⟩ : CopiedMesh).meshLoop k =
      if k = tid then m' else (⟨w, outside⟩ : CopiedMesh).meshLoop k := by
  by_cases hk : k = tid
  · subst hk
    simp [CopiedMesh.meshLoop]
  · simp [CopiedMesh.meshLoop, hk]

/-- What every step preserves at the loop where it happens holds at all loops of a run. -/
theorem mesh_loops_invariant {cond : Environment → Shared → MeshLoop → MeshEvent → Prop}
    {I : Nat → MeshLoop → Prop}
    (hstep : ∀ tid startTime shared m e shared' m', tid < eventLoopNum → I tid m →
      cond env shared m e → m.copiedStep b env startTime shared e = some (shared', m') → I tid m')
    (hstart : ∀ tid, tid < eventLoopNum → I tid ⟨startWorkEventLoop tid (raw tid), startOutside⟩)
    (h : Run (CopiedStepIf b env cond) (startCopied (consumer n startTime raw)) es m) :
    ∀ tid, tid < eventLoopNum → I tid (m.meshLoop tid) := by
  refine h.invariant (P := fun m => ∀ tid, tid < eventLoopNum → I tid (m.meshLoop tid)) ?_ hstart
  intro m e m' hm ⟨hworld, hcond⟩
  simp only [CopiedMesh.step, Option.ite_none_right_eq_some] at hworld
  obtain ⟨htid, hworld⟩ := hworld
  obtain ⟨⟨shared, loop⟩, hloop, rfl⟩ := Option.map_eq_some_iff.mp hworld
  intro tid htid'
  rw [meshLoop_update m.world m.outside shared e.1 loop tid]
  split
  · next heq => exact heq ▸ hstep _ _ _ _ _ _ _ htid (hm _ htid) hcond hloop
  · exact hm tid htid'

lemma allHold_step (hb : b ≠ .bmi) (h : AllHold env m)
    (hstep : CopiedStepIf b env MeshLoopCond m e m') :
    AllHold env m' ∧ ∃ es, es.flatMap (fun e => (callbacksOf e.2).map (Prod.mk e.1)) =
        (meshCallbacks e.2).map (Prod.mk e.1) ∧
      Run (StepIf env (TakesTurns env)) m.world es m'.world := by
  obtain ⟨hstep, hcond⟩ := hstep
  simp only [CopiedMesh.step, Option.ite_none_right_eq_some] at hstep
  obtain ⟨htid, hstep⟩ := hstep
  obtain ⟨⟨shared, loop⟩, hloop, rfl⟩ := Option.map_eq_some_iff.mp hstep
  obtain ⟨hholds, es, hshown, hrun⟩ := meshHolds_step hb (h e.1 htid) hcond hloop
  refine ⟨?_, es.map (Prod.mk e.1), ?_, run_of_loop_run htid hrun⟩
  · intro tid htid'
    rw [meshLoop_update m.world m.outside shared e.1 loop tid]
    split
    · next htid => exact htid ▸ hholds
    · exact h tid htid'
  · rw [← hshown, List.flatMap_map, List.map_flatMap]

lemma allHold_start (env : Environment) (n : Nat) (startTime : Int) (raw : Nat → Nat → Mem UInt8) :
    AllHold env (startCopied (consumer n startTime raw)) :=
  fun _ htid => meshHolds_start env htid _

lemma allHold_run (hb : b ≠ .bmi)
    (h : Run (CopiedStepIf b env MeshLoopCond) (startCopied (consumer n startTime raw)) es m) :
    AllHold env m :=
  h.invariant (fun _ _ _ hm hstep => (allHold_step hb hm hstep).1)
    (allHold_start env n startTime raw)

theorem consumer_run_of_mesh (hb : b ≠ .bmi)
    (h : Run (CopiedStepIf b env MeshLoopCond) (startCopied (consumer n startTime raw)) es m) :
    ∃ es', Run (StepIf env (TakesTurns env)) (consumer n startTime raw) es' m.world ∧
      es'.flatMap (fun e => (callbacksOf e.2).map (Prod.mk e.1)) =
        es.flatMap (fun e => (meshCallbacks e.2).map (Prod.mk e.1)) := by
  obtain ⟨es', w, hrun, hshown, -, rfl⟩ := h.refine
    (R := fun m w => AllHold env m ∧ m.world = w)
    (fun m e m' w hm hstep => by
      obtain ⟨hall, rfl⟩ := hm
      obtain ⟨hall', ds, hshown, hrun⟩ := allHold_step hb hall hstep
      exact ⟨ds, m'.world, hrun, hshown, hall', rfl⟩)
    ⟨allHold_start env n startTime raw, rfl⟩
  exact ⟨es', hrun, hshown⟩

end

end MeshAgent.Proofs

