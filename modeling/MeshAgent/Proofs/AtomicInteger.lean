import Mathlib.Algebra.BigOperators.Group.List.Basic
import MeshAgent.Foundations.MonitorRules
import MeshAgent.Model.AtomicInteger

/-!
# The counter adds up

The results of the calls are the running sums of the deltas, in the order in which the calls
hold the mutex. What a call reads before it takes the mutex is never returned.
-/

namespace MeshAgent.Proofs
open MeshAgent.Foundations MeshAgent.Model

/-- A call as one step: the delta and the result. -/
def Adds (a : AtomicInt) (call : Int × Int) (d : AtomicInt) : Prop :=
  d.value = signed 32 (a.value + call.1) ∧ call.2 = d.value

def addMid : AddPoint → AtomicInt → AtomicInt → Prop
  | .store _ _, a, d => d = a
  | .load delta _, a, d => d.value = signed 32 (a.value + delta)
  | .unlock delta ret, a, d => Adds a (delta, ret) d
  | _, _, _ => False

def addEffect : AddPoint → List (Int × Int)
  | .unlock delta ret => [(delta, ret)]
  | _ => []

theorem addSections :
    Sections addProgram AddEntry (fun _ => True) addMid Adds addEffect where
  entry := by
    rintro l ⟨delta, rfl⟩
    trivial
  reads := by
    intro l next d hl
    cases l with
    | read | returns =>
      cases hl
      trivial
    | _ => cases hl
  signal := by
    intro l l' hl
    cases l with
    | _ => cases hl
  woken := by
    intro l l' hl
    cases l with
    | _ => cases hl
  lock := by
    intro l l' a hl _
    cases l with
    | lock =>
      cases hl
      rfl
    | _ => cases hl
  update := by
    intro l next a d hl _ hmid
    cases l with
    | store delta ret =>
      cases hl
      cases hmid
      exact ⟨_, _, rfl, rfl⟩
    | load delta ret =>
      cases hl
      exact ⟨_, _, rfl, hmid, rfl⟩
    | _ => cases hl
  unlock := by
    intro l l' a d hl _ hmid
    cases l with
    | unlock delta ret =>
      cases hl
      exact ⟨trivial, .single hmid, trivial⟩
    | _ => cases hl
  wait := by
    intro l l' a d hl
    cases l with
    | _ => cases hl
  inside := by
    intro l a d hmid
    cases l with
    | idle | read | lock | returns => exact hmid.elim
    | _ => trivial
  silent := by
    intro l hl
    cases l with
    | unlock => exact absurd rfl (hl _).1
    | _ => rfl

/-- Where the statements lead. -/
inductive AddNext : AddPoint → AddPoint → Prop
  | read {delta ret : Int} : AddNext (.read delta) (.lock delta ret)
  | lock {delta ret : Int} : AddNext (.lock delta ret) (.store delta ret)
  | store {delta ret : Int} : AddNext (.store delta ret) (.load delta ret)
  | load {delta ret ret' : Int} : AddNext (.load delta ret) (.unlock delta ret')
  | unlock {delta ret : Int} : AddNext (.unlock delta ret) (.returns delta ret)
  | returns {delta ret : Int} : AddNext (.returns delta ret) .idle

lemma addNext_of_leads {l l' : AddPoint} (hl : (addProgram l).Leads l') : AddNext l l' := by
  cases l with
  | idle => cases hl
  | read | returns =>
    obtain ⟨d, rfl⟩ := hl
    constructor
  | lock | unlock =>
    cases hl
    constructor
  | store | load =>
    obtain ⟨d, d', hnext⟩ := hl
    cases hnext
    constructor

lemma idle_of_addProgram {l : AddPoint} (hl : addProgram l = .idle) : l = .idle := by
  cases l with
  | idle => rfl
  | _ => cases hl

lemma addProgram_ne_asleep (l l' : AddPoint) : addProgram l ≠ .asleep l' := by
  cases l with
  | _ => exact nofun

def addStarts : AddPoint → List Int
  | .read delta => [delta]
  | _ => []

/-- The call that has not added its delta yet. -/
def addOpen : AddPoint → List Int
  | .read delta | .lock delta _ | .store delta _ | .load delta _ | .unlock delta _ => [delta]
  | _ => []

def addReturns : AddPoint → List (Int × Int)
  | .returns delta ret => [(delta, ret)]
  | _ => []

section

variable {τ : Type*} [DecidableEq τ] {init : Int} {calls : List (Int × Int)} {atom : AtomicInt}
  {es : List (ThreadEvent τ AddPoint)} {s : Threads τ AtomicInt AddPoint}

/-- The calls, with their threads, in the order in which they hold the mutex. -/
def addCalls (es : List (ThreadEvent τ AddPoint)) : List (τ × (Int × Int)) :=
  es.flatMap (·.effects addEffect)

lemma addStarts_account (h : Run AddStep (startThreads (initAtomicInteger init) .idle) es s)
    (t : τ) :
    startedBy t addStarts es = (ofThread t (addCalls es)).map Prod.fst ++ addOpen (s.point t) := by
  have haccount := startedBy_account addStarts (fun l => (addEffect l).map Prod.fst) addOpen
    (fun l l' hl hentry => ?_) (fun l l' hl => ?_)
    (fun l l' hl => absurd hl (addProgram_ne_asleep l l')) h t
  · unfold addCalls
    rw [ofThread_effects, executedBy, List.map_flatMap]
    simp only [List.map_flatMap]
    exact haccount
  · rw [idle_of_addProgram hl]
    obtain ⟨delta, rfl⟩ := hentry
    rfl
  · cases addNext_of_leads hl with
    | _ => rfl

lemma addReturns_account (h : Run AddStep (startThreads (initAtomicInteger init) .idle) es s)
    (t : τ) :
    ofThread t (addCalls es) = executedBy t addReturns es ++ addReturns (s.point t) := by
  have haccount := executedBy_account addEffect addReturns addReturns
    (fun l l' hl hentry => ?_) (fun l l' hl => ?_)
    (fun l l' hl => absurd hl (addProgram_ne_asleep l l')) h t
  · unfold addCalls
    rw [ofThread_effects]
    exact haccount
  · rw [idle_of_addProgram hl]
    obtain ⟨delta, rfl⟩ := hentry
    rfl
  · cases addNext_of_leads hl with
    | _ => rfl

lemma adds_value (hinit : signed 32 init = init)
    (h : Run Adds (initAtomicInteger init) calls atom) :
    atom.value = signed 32 (init + (calls.map Prod.fst).sum) := by
  induction h with
  | nil => simp [initAtomicInteger, hinit]
  | snoc _ hlast ih =>
    rw [hlast.1, ih, signed_signed_add, List.map_append, List.sum_append, Int.add_assoc]
    simp

lemma adds_results (hinit : signed 32 init = init)
    (h : Run Adds (initAtomicInteger init) calls atom) {before after : List (Int × Int)}
    {call : Int × Int} (hcalls : calls = before ++ call :: after) :
    call.2 = signed 32 (init + (before.map Prod.fst).sum + call.1) := by
  induction h generalizing after with
  | nil => simp at hcalls
  | @snoc b c es e hrun hlast ih =>
    rcases List.eq_nil_or_concat after with rfl | ⟨after', last, rfl⟩
    · obtain ⟨rfl, hlast'⟩ := List.append_inj' hcalls rfl
      cases hlast'
      rw [hlast.2, hlast.1, adds_value hinit hrun, signed_signed_add]
    · have hinit' : es ++ [e] = (before ++ call :: after') ++ [last] := by
        rw [hcalls]
        simp
      exact ih (List.append_inj' hinit' rfl).1

/-- However the statements of the threads interleave, the results are the running sums of the
deltas in the order in which the calls hold the mutex, the value is the sum of all of them, and
every thread gets the results of its own calls, in its order. -/
theorem atomicAdd_sums (init : Int) (hinit : signed 32 init = init)
    (es : List (ThreadEvent τ AddPoint)) (s : Threads τ AtomicInt AddPoint)
    (h : Run AddStep (startThreads (initAtomicInteger init) .idle) es s) :
    (∀ before call after, (addCalls es).map Prod.snd = before ++ call :: after →
      call.2 = signed 32 (init + (before.map Prod.fst).sum + call.1)) ∧
    (s.holder = none →
      s.data.value = signed 32 (init + (((addCalls es).map Prod.snd).map Prod.fst).sum)) ∧
    ∀ t, startedBy t addStarts es =
        (ofThread t (addCalls es)).map Prod.fst ++ addOpen (s.point t) ∧
      ofThread t (addCalls es) = executedBy t addReturns es ++ addReturns (s.point t) := by
  obtain ⟨atom, hrun, hserial, -⟩ := sections_run addSections (fun _ _ => True)
    (fun _ _ _ _ _ _ _ => trivial) h (serial_start trivial rfl) trivial
  refine ⟨fun before call after hcalls => adds_results hinit hrun hcalls, ?_,
    fun t => ⟨addStarts_account h t, addReturns_account h t⟩⟩
  intro hfree
  rw [hserial.free hfree]
  exact adds_value hinit hrun

/-- Thread 0 reads 0, then thread 1 adds 7, then thread 0 adds 5: its result is 12. -/
theorem atomicAdd_sums_two :
    ∃ es s, Run AddStep (startThreads (initAtomicInteger 0) .idle : Threads (Fin 2) _ _) es s ∧
      s.point 0 = .returns 5 12 ∧ s.data.value = 12 := by
  have hstart : Run AddStep (startThreads (initAtomicInteger 0) .idle : Threads (Fin 2) _ _) [] _ :=
    .nil _
  have hreads := (hstart.snoc (.start (t := 0) (l := .read 5) rfl ⟨5, rfl⟩)).snoc
    (.reads (t := 0) rfl)
  have hone := (((((hreads.snoc (.start (t := 1) (l := .read 7) rfl ⟨7, rfl⟩)).snoc
    (.reads (t := 1) rfl)).snoc (.lock (t := 1) rfl rfl)).snoc (.update (t := 1) rfl rfl rfl)).snoc
      (.update (t := 1) rfl rfl rfl)).snoc (.unlock (t := 1) rfl rfl)
  have hboth := (((hone.snoc (.lock (t := 0) rfl rfl)).snoc (.update (t := 0) rfl rfl rfl)).snoc
    (.update (t := 0) rfl rfl rfl)).snoc (.unlock (t := 0) rfl rfl)
  exact ⟨_, _, hboth, rfl, (atomicAdd_sums 0 (by decide) _ _ hboth).2.1 rfl⟩

end

end MeshAgent.Proofs
