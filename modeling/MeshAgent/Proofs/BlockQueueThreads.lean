import Mathlib.Data.Fintype.Basic
import MeshAgent.Foundations.MonitorRules
import MeshAgent.Model.BlockQueueThreads
import MeshAgent.Proofs.BlockQueue

/-!
# The request queue between threads

The mutex makes every call one step, as far as the others can tell. The signal that a push
sends after it has given up the mutex comes in time: no pull sleeps while a request that nobody
will fetch is stored.
-/

namespace MeshAgent.Proofs
open MeshAgent.Foundations MeshAgent.Model MeshAgent.Model.BlockQueue

section

variable {α : Type*} {n : Nat} {a d : BlockQueue α} {q : List α}

/-- What the statements since the mutex was taken have made of the queue `a`. -/
def bqMid : BqPoint α → BlockQueue α → BlockQueue α → Prop
  | .pushTestFull _, a, d | .pullTestEmpty, a, d => d = a
  | .pushUnlockFull httpReq, a, d => a.bqPush httpReq = some (1, d)
  | .pushStore _, a, d => d = a ∧ ¬ a.testFull
  | .pushAdvance httpReq, a, d =>
    d = { a with httpReqArray := Function.update a.httpReqArray a.tail httpReq } ∧ ¬ a.testFull
  | .pushTestMax httpReq, a, d =>
    d = { a with
      httpReqArray := Function.update a.httpReqArray a.tail httpReq
      tail := a.tail + 1 } ∧ ¬ a.testFull
  | .pushResetTail httpReq, a, d =>
    d = { a with
      httpReqArray := Function.update a.httpReqArray a.tail httpReq
      tail := a.tail + 1 } ∧ ¬ a.testFull ∧ a.tail + 1 = a.maxSize
  | .pushSetAhead httpReq, a, d =>
    d = { a with
      httpReqArray := Function.update a.httpReqArray a.tail httpReq
      tail := 0 } ∧ ¬ a.testFull ∧ a.tail + 1 = a.maxSize
  | .pushUnlock httpReq, a, d => a.bqPush httpReq = some (0, d)
  | .pullWait, a, d => d = a ∧ a.bqPull = some .blocked
  | .pullLoad, a, d => d = a ∧ ¬ a.testEmpty
  | .pullAdvance req, a, d => d = a ∧ ¬ a.testEmpty ∧ req = a.httpReqArray a.head
  | .pullTestMax req, a, d =>
    d = { a with head := a.head + 1 } ∧ ¬ a.testEmpty ∧ req = a.httpReqArray a.head
  | .pullResetHead req, a, d =>
    d = { a with head := a.head + 1 } ∧ ¬ a.testEmpty ∧ req = a.httpReqArray a.head ∧
      a.head + 1 = a.maxSize
  | .pullClearAhead req, a, d =>
    d = { a with head := 0 } ∧ ¬ a.testEmpty ∧ req = a.httpReqArray a.head ∧
      a.head + 1 = a.maxSize
  | .pullUnlock req, a, d => a.bqPull = some (.pulled req d)
  | _, _, _ => False

/-- The call that a section carries out when it ends at a point. -/
def bqEffect : BqPoint α → List (Call α)
  | .pushUnlockFull httpReq => [.push httpReq 1]
  | .pushUnlock httpReq => [.push httpReq 0]
  | .pullUnlock req => [.pull req]
  | _ => []

/-- A queue that holds some requests. -/
def BqHolds (n : Nat) (bq : BlockQueue α) : Prop := ∃ q, Represents n bq q

lemma bqMid_update (hgood : BqHolds n a) {l : BqPoint α} {next : BlockQueue α → _}
    (hl : bqProgram l = .update next) (hmid : bqMid l a d) :
    ∃ l' d', next d = some (l', d') ∧ bqMid l' a d' := by
  obtain ⟨q, hq⟩ := hgood
  have htail := hq.tail
  have hhead := hq.head
  have hmax := hq.maxSize
  cases l with
  | pushTestFull httpReq =>
    cases hl
    cases hmid
    refine ⟨_, _, rfl, ?_⟩
    by_cases hfull : a.testFull = true
    · rw [if_pos hfull]
      change a.bqPush httpReq = _
      rw [bqPush, if_pos hfull]
    · rw [if_neg hfull]
      exact ⟨rfl, hfull⟩
  | pushStore httpReq =>
    cases hl
    obtain ⟨rfl, hfull⟩ := hmid
    exact ⟨_, _, if_neg (by omega), rfl, hfull⟩
  | pushAdvance httpReq =>
    cases hl
    obtain ⟨rfl, hfull⟩ := hmid
    exact ⟨_, _, rfl, rfl, hfull⟩
  | pushTestMax httpReq =>
    cases hl
    obtain ⟨rfl, hfull⟩ := hmid
    refine ⟨_, _, rfl, ?_⟩
    by_cases hwrap : a.tail + 1 = a.maxSize
    · simp only [if_pos hwrap]
      exact ⟨rfl, hfull, hwrap⟩
    · simp only [if_neg hwrap]
      change a.bqPush httpReq = _
      rw [bqPush, if_neg hfull, if_neg (by omega)]
      simp only [if_neg hwrap]
  | pushResetTail httpReq =>
    cases hl
    obtain ⟨rfl, hrest⟩ := hmid
    exact ⟨_, _, rfl, rfl, hrest⟩
  | pushSetAhead httpReq =>
    cases hl
    obtain ⟨rfl, hfull, hwrap⟩ := hmid
    refine ⟨_, _, rfl, ?_⟩
    change a.bqPush httpReq = _
    rw [bqPush, if_neg hfull, if_neg (by omega)]
    simp only [if_pos hwrap]
  | pullTestEmpty =>
    cases hl
    cases hmid
    refine ⟨_, _, rfl, ?_⟩
    by_cases hempty : a.testEmpty = true
    · rw [if_pos hempty]
      refine ⟨rfl, ?_⟩
      rw [bqPull, if_pos hempty]
    · rw [if_neg hempty]
      exact ⟨rfl, hempty⟩
  | pullLoad =>
    cases hl
    obtain ⟨rfl, hempty⟩ := hmid
    exact ⟨_, _, if_neg (by omega), rfl, hempty, rfl⟩
  | pullAdvance req =>
    cases hl
    obtain ⟨rfl, hrest⟩ := hmid
    exact ⟨_, _, rfl, rfl, hrest⟩
  | pullTestMax req =>
    cases hl
    obtain ⟨rfl, hempty, rfl⟩ := hmid
    refine ⟨_, _, rfl, ?_⟩
    by_cases hwrap : a.head + 1 = a.maxSize
    · simp only [if_pos hwrap]
      exact ⟨rfl, hempty, rfl, hwrap⟩
    · simp only [if_neg hwrap]
      change a.bqPull = _
      rw [bqPull, if_neg hempty, if_neg (by omega)]
      simp only [if_neg hwrap]
  | pullResetHead req =>
    cases hl
    obtain ⟨rfl, hrest⟩ := hmid
    exact ⟨_, _, rfl, rfl, hrest⟩
  | pullClearAhead req =>
    cases hl
    obtain ⟨rfl, hempty, rfl, hwrap⟩ := hmid
    refine ⟨_, _, rfl, ?_⟩
    change a.bqPull = _
    rw [bqPull, if_neg hempty, if_neg (by omega)]
    simp only [if_pos hwrap]
  | _ => cases hl

lemma bqHolds_step {bq bq' : BlockQueue α} {call : Call α} (h : BqHolds n bq)
    (hstep : Step bq call bq') : BqHolds n bq' := by
  obtain ⟨q, hq⟩ := h
  obtain ⟨q', -, hq'⟩ := step_fifo hq hstep
  exact ⟨q', hq'⟩

theorem bqSections (n : Nat) :
    Sections bqProgram BqEntry (BqHolds n) bqMid Step (bqEffect (α := α)) where
  entry := by
    rintro l (⟨httpReq, rfl⟩ | rfl)
    · trivial
    · trivial
  reads := by
    intro l next d hl
    cases l with
    | pushReturn | pullReturn =>
      cases hl
      trivial
    | _ => cases hl
  signal := by
    intro l l' hl
    cases l with
    | pushSignal =>
      cases hl
      trivial
    | _ => cases hl
  woken := by
    intro l l' hl
    cases l with
    | pullAsleep =>
      cases hl
      trivial
    | _ => cases hl
  lock := by
    intro l l' a hl _
    cases l with
    | pushLock | pullLock | pullWoken =>
      cases hl
      rfl
    | _ => cases hl
  update := fun l next a d hl hgood hmid => bqMid_update hgood hl hmid
  unlock := by
    intro l l' a d hl hgood hmid
    cases l with
    | pushUnlockFull httpReq =>
      cases hl
      have hstep : Step a (.push httpReq 1) d := .push hmid
      exact ⟨trivial, .single hstep, bqHolds_step hgood hstep⟩
    | pushUnlock httpReq =>
      cases hl
      have hstep : Step a (.push httpReq 0) d := .push hmid
      exact ⟨trivial, .single hstep, bqHolds_step hgood hstep⟩
    | pullUnlock req =>
      cases hl
      have hstep : Step a (.pull req) d := .pull hmid
      exact ⟨trivial, .single hstep, bqHolds_step hgood hstep⟩
    | _ => cases hl
  wait := by
    intro l l' a d hl hgood hmid
    cases l with
    | pullWait =>
      cases hl
      obtain ⟨rfl, -⟩ := hmid
      exact ⟨⟨_, rfl⟩, .nil d, hgood⟩
    | _ => cases hl
  inside := by
    intro l a d hmid
    cases l with
    | idle | pushLock | pushSignal | pushReturn | pullLock | pullAsleep | pullWoken | pullReturn =>
      exact hmid.elim
    | _ => trivial
  silent := by
    intro l hl
    cases l with
    | pushUnlockFull | pushUnlock | pullUnlock => exact absurd rfl (hl _).1
    | _ => rfl

/-- Where the statements lead. -/
inductive BqNext : BqPoint α → BqPoint α → Prop
  | pushLock {httpReq : α} : BqNext (.pushLock httpReq) (.pushTestFull httpReq)
  | pushFull {httpReq : α} : BqNext (.pushTestFull httpReq) (.pushUnlockFull httpReq)
  | pushRoom {httpReq : α} : BqNext (.pushTestFull httpReq) (.pushStore httpReq)
  | pushUnlockFull {httpReq : α} : BqNext (.pushUnlockFull httpReq) (.pushReturn httpReq 1)
  | pushStore {httpReq : α} : BqNext (.pushStore httpReq) (.pushAdvance httpReq)
  | pushAdvance {httpReq : α} : BqNext (.pushAdvance httpReq) (.pushTestMax httpReq)
  | pushMax {httpReq : α} : BqNext (.pushTestMax httpReq) (.pushResetTail httpReq)
  | pushNoMax {httpReq : α} : BqNext (.pushTestMax httpReq) (.pushUnlock httpReq)
  | pushResetTail {httpReq : α} : BqNext (.pushResetTail httpReq) (.pushSetAhead httpReq)
  | pushSetAhead {httpReq : α} : BqNext (.pushSetAhead httpReq) (.pushUnlock httpReq)
  | pushUnlock {httpReq : α} : BqNext (.pushUnlock httpReq) (.pushSignal httpReq)
  | pushSignal {httpReq : α} : BqNext (.pushSignal httpReq) (.pushReturn httpReq 0)
  | pushReturn {httpReq : α} {result : Int} : BqNext (.pushReturn httpReq result) .idle
  | pullLock : BqNext .pullLock .pullTestEmpty
  | pullEmpty : BqNext .pullTestEmpty .pullWait
  | pullSome : BqNext .pullTestEmpty .pullLoad
  | pullWait : BqNext .pullWait .pullAsleep
  | pullWoken : BqNext .pullWoken .pullTestEmpty
  | pullLoad {req : α} : BqNext .pullLoad (.pullAdvance req)
  | pullAdvance {req : α} : BqNext (.pullAdvance req) (.pullTestMax req)
  | pullMax {req : α} : BqNext (.pullTestMax req) (.pullResetHead req)
  | pullNoMax {req : α} : BqNext (.pullTestMax req) (.pullUnlock req)
  | pullResetHead {req : α} : BqNext (.pullResetHead req) (.pullClearAhead req)
  | pullClearAhead {req : α} : BqNext (.pullClearAhead req) (.pullUnlock req)
  | pullUnlock {req : α} : BqNext (.pullUnlock req) (.pullReturn req)
  | pullReturn {req : α} : BqNext (.pullReturn req) .idle

lemma bqNext_of_leads {l l' : BqPoint α} (hl : (bqProgram l).Leads l') : BqNext l l' := by
  cases l with
  | idle | pullAsleep => cases hl
  | pushLock | pushUnlockFull | pushUnlock | pushSignal | pullLock | pullWait | pullWoken
  | pullUnlock =>
    cases hl
    constructor
  | pushReturn | pullReturn =>
    obtain ⟨-, rfl⟩ := hl
    constructor
  | pushAdvance | pushResetTail | pushSetAhead | pullAdvance | pullResetHead | pullClearAhead =>
    obtain ⟨d, d', hnext⟩ := hl
    cases hnext
    constructor
  | pushTestFull | pushTestMax | pullTestEmpty | pullTestMax =>
    obtain ⟨d, d', hnext⟩ := hl
    cases hnext
    split
    all_goals constructor
  | pushStore | pullLoad =>
    obtain ⟨d, d', hnext⟩ := hl
    dsimp only at hnext
    split at hnext
    · cases hnext
    · cases hnext
      constructor

/-- How many requests a queue stores. -/
def stored (bq : BlockQueue α) : Nat :=
  if bq.tailAhead = 1 then bq.tail + bq.maxSize - bq.head else bq.tail - bq.head

lemma stored_eq (h : Represents n a q) : stored a = q.length := by
  have hmax := h.maxSize
  rcases h.count with ⟨hahead, hcount⟩ | ⟨hahead, hle, hcount⟩
  · rw [stored, if_neg (by omega)]
    omega
  · rw [stored, if_pos hahead]
    omega

/-- A pull that has been woken, or has begun to look, will fetch a request; a push that has
given up the mutex will wake a thread. -/
def bqCredit : BqPoint α → Nat
  | .pushSignal _ | .pullTestEmpty | .pullWait | .pullWoken | .pullLoad | .pullAdvance _
  | .pullTestMax _ | .pullResetHead _ | .pullClearAhead _ | .pullUnlock _ => 1
  | _ => 0

lemma stored_push_full {httpReq : α} (hgood : BqHolds n a) (h : a.bqPush httpReq = some (1, d)) :
    stored d = stored a := by
  obtain ⟨q, hq⟩ := hgood
  by_cases hfull : q.length = n
  · rw [hq.push_full hfull, Option.some.injEq, Prod.mk.injEq] at h
    rw [h.2]
  · obtain ⟨bq', hret, -⟩ := hq.push_room (Nat.lt_of_le_of_ne hq.ring.length_le hfull) httpReq
    rw [hret] at h
    simp at h

lemma stored_push {httpReq : α} (hgood : BqHolds n a) (h : a.bqPush httpReq = some (0, d)) :
    stored d = stored a + 1 := by
  obtain ⟨q, hq⟩ := hgood
  by_cases hfull : q.length = n
  · rw [hq.push_full hfull] at h
    simp at h
  · obtain ⟨bq', hret, hq'⟩ := hq.push_room (Nat.lt_of_le_of_ne hq.ring.length_le hfull) httpReq
    rw [hret, Option.some.injEq, Prod.mk.injEq] at h
    rw [← h.2, stored_eq hq', stored_eq hq, List.length_append]
    rfl

lemma stored_pull {req : α} (hgood : BqHolds n a) (h : a.bqPull = some (.pulled req d)) :
    stored a = stored d + 1 := by
  obtain ⟨q, hq⟩ := hgood
  cases q with
  | nil =>
    rw [hq.pull_empty rfl] at h
    simp at h
  | cons b q =>
    obtain ⟨bq', hret, hq'⟩ := hq.pull_cons
    rw [hret, Option.some.injEq, Pull.pulled.injEq] at h
    rw [← h.2, stored_eq hq', stored_eq hq, List.length_cons]

lemma stored_blocked (hgood : BqHolds n a) (h : a.bqPull = some .blocked) : stored a = 0 := by
  obtain ⟨q, hq⟩ := hgood
  cases q with
  | nil => rw [stored_eq hq, List.length_nil]
  | cons b q =>
    obtain ⟨bq', hret, -⟩ := hq.pull_cons
    rw [hret] at h
    simp at h

theorem bqCredits (n : Nat) :
    Credits bqProgram (BqHolds n) bqMid (stored (α := α)) bqCredit where
  idle := by
    intro l hl
    cases l with
    | idle => rfl
    | _ => cases hl
  reads := by
    intro l next d hl
    cases l with
    | pushReturn | pullReturn =>
      cases hl
      exact Nat.le_refl 0
    | _ => cases hl
  lock := by
    intro l l' hl
    cases l with
    | pushLock | pullLock | pullWoken =>
      cases hl
      simp [bqCredit]
    | _ => cases hl
  update := by
    intro l next d l' d' hl hnext
    have hleads : (bqProgram l).Leads l' := by
      rw [hl]
      exact ⟨d, d', hnext⟩
    cases bqNext_of_leads hleads with
    | pushUnlockFull | pushUnlock | pushSignal | pullWait | pullUnlock => cases hl
    | _ => simp [bqCredit]
  unlock := by
    intro l l' a d hl hgood hmid
    cases l with
    | pushUnlockFull httpReq =>
      cases hl
      exact Nat.le_of_eq (by rw [stored_push_full hgood hmid]; rfl)
    | pushUnlock httpReq =>
      cases hl
      exact Nat.le_of_eq (by rw [stored_push hgood hmid]; rfl)
    | pullUnlock req =>
      cases hl
      exact Nat.le_of_eq (stored_pull hgood hmid).symm
    | _ => cases hl
  wait := by
    intro l l' a d hl hgood hmid
    cases l with
    | pullWait =>
      cases hl
      obtain ⟨rfl, hblocked⟩ := hmid
      exact stored_blocked hgood hblocked
    | _ => cases hl
  signal := by
    intro l l' m w hl hm
    cases l with
    | pushSignal =>
      cases m with
      | pullAsleep =>
        cases hl
        cases hm
        exact Nat.le_refl 1
      | _ => cases hm
    | _ => cases hl
  woken := by
    intro m w hm
    cases m with
    | pullAsleep => exact Nat.zero_le _
    | _ => cases hm

/-- A push signals once at most. -/
def bqSignals : BqPoint α → Nat
  | .pushLock _ | .pushTestFull _ | .pushUnlockFull _ | .pushStore _ | .pushAdvance _
  | .pushTestMax _ | .pushResetTail _ | .pushSetAhead _ | .pushUnlock _ | .pushSignal _ => 1
  | _ => 0

/-- How many statements are left at most, until the thread returns or sleeps. -/
def bqHeight : BqPoint α → Nat
  | .idle | .pullAsleep => 0
  | .pushReturn _ _ | .pullReturn _ | .pullWait => 1
  | .pushSignal _ | .pushUnlockFull _ | .pullUnlock _ => 2
  | .pushUnlock _ | .pullClearAhead _ => 3
  | .pushSetAhead _ | .pullResetHead _ => 4
  | .pushResetTail _ | .pullTestMax _ => 5
  | .pushTestMax _ | .pullAdvance _ => 6
  | .pushAdvance _ | .pullLoad => 7
  | .pushStore _ | .pullTestEmpty => 8
  | .pushTestFull _ | .pullLock | .pullWoken => 9
  | .pushLock _ => 10

theorem bqRanked : Ranked bqProgram bqSignals (bqHeight (α := α)) where
  leads := by
    intro l l' hl hsignal
    cases bqNext_of_leads hl with
    | pushSignal => exact absurd rfl (hsignal _)
    | _ => simp [bqSignals, bqHeight]
  signal := by
    intro l l' hl
    cases l with
    | pushSignal =>
      cases hl
      simp [bqSignals, bqHeight]
    | _ => cases hl
  woken := by
    intro l w hl
    cases l with
    | pullAsleep =>
      cases hl
      exact Nat.le_refl 0
    | _ => cases hl

end

section

variable {α : Type*}

inductive BqOp (α : Type*)
  | push (httpReq : α)
  | pull

def bqStarts : BqPoint α → List (BqOp α)
  | .pushLock httpReq => [.push httpReq]
  | .pullLock => [.pull]
  | _ => []

def callOp : Call α → BqOp α
  | .push httpReq _ => .push httpReq
  | .pull _ => .pull

/-- The call that a thread is executing and that has not taken effect yet. -/
def bqOpen : BqPoint α → List (BqOp α)
  | .pushLock httpReq | .pushTestFull httpReq | .pushUnlockFull httpReq | .pushStore httpReq
  | .pushAdvance httpReq | .pushTestMax httpReq | .pushResetTail httpReq | .pushSetAhead httpReq
  | .pushUnlock httpReq => [.push httpReq]
  | .pullLock | .pullTestEmpty | .pullWait | .pullAsleep | .pullWoken | .pullLoad
  | .pullAdvance _ | .pullTestMax _ | .pullResetHead _ | .pullClearAhead _ | .pullUnlock _ =>
    [.pull]
  | _ => []

/-- The call that has taken effect and has not returned yet. -/
def bqOwed : BqPoint α → List (Call α)
  | .pushSignal httpReq => [.push httpReq 0]
  | .pushReturn httpReq result => [.push httpReq result]
  | .pullReturn req => [.pull req]
  | _ => []

def bqReturns : BqPoint α → List (Call α)
  | .pushReturn httpReq result => [.push httpReq result]
  | .pullReturn req => [.pull req]
  | _ => []

lemma serial_bqThreads {n : Nat} (τ : Type*) (hn : 0 < n) (fresh : Nat → α) :
    Serial bqProgram (BqHolds n) bqMid (bqThreads τ n fresh) (initBlockQueue n fresh) :=
  serial_start ⟨[], Represents.init hn fresh⟩ rfl

variable {τ : Type*} [DecidableEq τ] {n : Nat} {fresh : Nat → α}
  {es : List (ThreadEvent τ (BqPoint α))} {s s' : Threads τ (BlockQueue α) (BqPoint α)}
  {e : ThreadEvent τ (BqPoint α)}

/-- The calls in the order in which they take effect, each with its thread. -/
def bqCalls (es : List (ThreadEvent τ (BqPoint α))) : List (τ × Call α) :=
  es.flatMap (·.effects bqEffect)

lemma idle_of_program {l : BqPoint α} (hl : bqProgram l = .idle) : l = .idle := by
  cases l with
  | idle => rfl
  | _ => cases hl

lemma asleep_of_program {l l' : BqPoint α} (hl : bqProgram l = .asleep l') :
    l = .pullAsleep ∧ l' = .pullWoken := by
  cases l with
  | pullAsleep =>
    cases hl
    exact ⟨rfl, rfl⟩
  | _ => cases hl

lemma bqStarts_account (h : Run BqStep (bqThreads τ n fresh) es s) (t : τ) :
    startedBy t bqStarts es = (ofThread t (bqCalls es)).map callOp ++ bqOpen (s.point t) := by
  have haccount := startedBy_account bqStarts (fun l => (bqEffect l).map callOp) bqOpen
    (fun l l' hl hentry => ?_) (fun l l' hl => ?_) (fun l l' hl => ?_) h t
  · unfold bqCalls
    rw [ofThread_effects, executedBy, List.map_flatMap]
    simp only [List.map_flatMap]
    exact haccount
  · rw [idle_of_program hl]
    rcases hentry with ⟨httpReq, rfl⟩ | rfl
    · rfl
    · rfl
  · cases bqNext_of_leads hl with
    | _ => rfl
  · obtain ⟨rfl, rfl⟩ := asleep_of_program hl
    rfl

lemma bqReturns_account (h : Run BqStep (bqThreads τ n fresh) es s) (t : τ) :
    ofThread t (bqCalls es) = executedBy t bqReturns es ++ bqOwed (s.point t) := by
  have haccount := executedBy_account bqEffect bqReturns bqOwed
    (fun l l' hl hentry => ?_) (fun l l' hl => ?_) (fun l l' hl => ?_) h t
  · unfold bqCalls
    rw [ofThread_effects]
    exact haccount
  · rw [idle_of_program hl]
    rcases hentry with ⟨httpReq, rfl⟩ | rfl
    · rfl
    · rfl
  · cases bqNext_of_leads hl with
    | _ => rfl
  · obtain ⟨rfl, rfl⟩ := asleep_of_program hl
    rfl

/-- However the statements of the threads interleave, the calls take effect one after the other,
as if each were one step; every thread gets the results of its own calls, in its order, and each
call takes effect between its start and its return. Only one thread at a time is between lock
and unlock. -/
theorem blockQueue_linearizable (n : Nat) (hn : 0 < n) (fresh : Nat → α)
    (es : List (ThreadEvent τ (BqPoint α))) (s : Threads τ (BlockQueue α) (BqPoint α))
    (h : Run BqStep (bqThreads τ n fresh) es s) :
    (∃ bq, Run Step (initBlockQueue n fresh) ((bqCalls es).map Prod.snd) bq ∧
      (s.holder = none → s.data = bq)) ∧
    (∀ t, startedBy t bqStarts es = (ofThread t (bqCalls es)).map callOp ++ bqOpen (s.point t) ∧
      ofThread t (bqCalls es) = executedBy t bqReturns es ++ bqOwed (s.point t)) ∧
    ∀ t u, (bqProgram (s.point t)).Inside → (bqProgram (s.point u)).Inside → t = u := by
  obtain ⟨bq, hrun, hserial, -⟩ := sections_run (bqSections n) (fun _ _ => True)
    (fun _ _ _ _ _ _ _ => trivial) h (serial_bqThreads τ hn fresh) trivial
  exact ⟨⟨bq, hrun, hserial.free⟩, fun t => ⟨bqStarts_account h t, bqReturns_account h t⟩,
    fun t u => hserial.exclusive⟩

/-- Thread 0 pulls and sleeps; then thread 1 pushes 7 up to the end of its section. -/
lemma sleeps_and_pushes :
    ∃ es s, Run BqStep (bqThreads (Fin 2) 1 (fun _ => 0)) es s ∧ s.point 0 = .pullAsleep ∧
      s.point 1 = .pushSignal 7 ∧ bqCalls es = [(1, .push 7 0)] := by
  have hstart : Run BqStep (bqThreads (Fin 2) 1 (fun _ => 0)) [] _ := .nil _
  have hsleeps := (((hstart.snoc (.start (t := 0) (l := .pullLock) rfl (.inr rfl))).snoc
    (.lock (t := 0) rfl rfl)).snoc (.update (t := 0) rfl rfl rfl)).snoc (.wait (t := 0) rfl rfl)
  have hstores := (((hsleeps.snoc (.start (t := 1) (l := .pushLock 7) rfl (.inl ⟨7, rfl⟩))).snoc
    (.lock (t := 1) rfl rfl)).snoc (.update (t := 1) rfl rfl rfl)).snoc
      (.update (t := 1) rfl rfl rfl)
  have hpushes := ((((hstores.snoc (.update (t := 1) rfl rfl rfl)).snoc
    (.update (t := 1) rfl rfl rfl)).snoc (.update (t := 1) rfl rfl rfl)).snoc
      (.update (t := 1) rfl rfl rfl)).snoc (.unlock (t := 1) rfl rfl)
  exact ⟨_, _, hpushes, rfl, rfl, rfl⟩

/-- The push of thread 1 has taken effect and has not returned; the pull of thread 0 has not. -/
theorem blockQueue_linearizable_one :
    ∃ es s, Run BqStep (bqThreads (Fin 2) 1 (fun _ => 0)) es s ∧
      (∃ bq, Run Step (initBlockQueue 1 (fun _ => 0)) [.push 7 0] bq ∧
        (s.holder = none → s.data = bq)) ∧
      startedBy 0 bqStarts es = [.pull] ∧ executedBy 1 bqReturns es = [] := by
  obtain ⟨es, s, hrun, hpull, hpush, hcalls⟩ := sleeps_and_pushes
  obtain ⟨hatomic, hthreads, -⟩ := blockQueue_linearizable 1 (by decide) _ es s hrun
  rw [hcalls] at hatomic hthreads
  have hzero := (hthreads 0).1
  have hone := (hthreads 1).2
  rw [hpull] at hzero
  rw [hpush] at hone
  exact ⟨es, s, hrun, hatomic, hzero, List.self_eq_append_left.mp hone⟩

variable [Fintype τ]

lemma bqRun_covered (hn : 0 < n) (h : Run BqStep (bqThreads τ n fresh) es s) :
    ∃ bq, Run Step (initBlockQueue n fresh) ((bqCalls es).map Prod.snd) bq ∧
      Serial bqProgram (BqHolds n) bqMid s bq ∧ Covered bqProgram stored bqCredit s bq :=
  sections_run (bqSections n) _
    (fun _ _ _ _ hs hstep hc => covered_step (bqSections n) (bqCredits n) hs hstep hc) h
    (serial_bqThreads τ hn fresh) (fun ⟨_, _, hw⟩ => by cases hw)

/-- While a pull sleeps, every stored request has a thread of its own that will fetch it: a pull
that has been woken or is testing the queue, or a pull that a push is about to wake. -/
theorem no_lost_wakeup (n : Nat) (hn : 0 < n) (fresh : Nat → α)
    (es : List (ThreadEvent τ (BqPoint α))) (s : Threads τ (BlockQueue α) (BqPoint α))
    (h : Run BqStep (bqThreads τ n fresh) es s) (t : τ) (hasleep : s.point t = .pullAsleep) :
    (accepted ((bqCalls es).map Prod.snd)).length ≤
      (pulled ((bqCalls es).map Prod.snd)).length + ∑ u, bqCredit (s.point u) := by
  obtain ⟨bq, hrun, hserial, hcovered⟩ := bqRun_covered hn h
  obtain ⟨q, hall, hq⟩ := run_represents hn hrun
  have hstored := hcovered ⟨t, .pullWoken, by rw [hasleep]; rfl⟩
  rw [stored_eq hq] at hstored
  rw [hall, List.length_append]
  omega

/-- While the pull of thread 0 sleeps, the push of thread 1 has taken effect, and the signal is
still to come. -/
theorem no_lost_wakeup_one :
    ∃ es s, Run BqStep (bqThreads (Fin 2) 1 (fun _ => 0)) es s ∧ s.point 0 = .pullAsleep ∧
      s.point 1 = .pushSignal 7 ∧
      (accepted ((bqCalls es).map Prod.snd)).length ≤
        (pulled ((bqCalls es).map Prod.snd)).length + ∑ u, bqCredit (s.point u) := by
  obtain ⟨es, s, hrun, hpull, hpush, -⟩ := sleeps_and_pushes
  exact ⟨es, s, hrun, hpull, hpush, no_lost_wakeup 1 (by decide) _ es s hrun 0 hpull⟩

/-- A pull sleeps on an empty queue. -/
def SleepsOnEmpty (s : Threads τ (BlockQueue α) (BqPoint α)) : Prop :=
  (∃ t, s.point t = .pullAsleep) → s.data.testEmpty = true

/-- However the threads take turns, and as long as no wait ends without a signal, the calls that
have been started come to an end: every push returns, and a pull that does not return sleeps on
an empty queue. No thread is ever stuck before. -/
theorem calls_come_to_rest (n : Nat) (hn : 0 < n) (fresh : Nat → α)
    (es : List (ThreadEvent τ (BqPoint α))) (s : Threads τ (BlockQueue α) (BqPoint α))
    (h : Run BqStep (bqThreads τ n fresh) es s) :
    Eventually (Proceeds bqProgram)
      (fun s => (∀ t, s.point t = .idle ∨ s.point t = .pullAsleep) ∧ s.holder = none ∧
        SleepsOnEmpty s) s := by
  obtain ⟨bq, -, hserial, hcovered⟩ := bqRun_covered hn h
  refine (eventually_atRest (bqSections n) bqRanked
    (fun _ _ _ _ hs hstep hc => covered_step (bqSections n) (bqCredits n) hs hstep hc) hserial
    hcovered).imp ?_
  rintro s' ⟨hrest, bq', hserial', hcovered'⟩
  have hpoints : ∀ t, s'.point t = .idle ∨ s'.point t = .pullAsleep := by
    intro t
    rcases hrest t with hidle | ⟨w, hw⟩
    · exact .inl (idle_of_program hidle)
    · right
      cases hp : s'.point t with
      | pullAsleep => rfl
      | _ =>
        rw [hp] at hw
        cases hw
  have hfree : s'.holder = none := by
    by_contra hheld
    obtain ⟨t, ht⟩ := Option.ne_none_iff_exists'.mp hheld
    have hinside := (bqSections n).inside _ _ _ (hserial'.held t ht)
    rcases hpoints t with hp | hp
    · rw [hp] at hinside
      exact hinside
    · rw [hp] at hinside
      exact hinside
  refine ⟨hpoints, hfree, ?_⟩
  rintro ⟨t, ht⟩
  have hstored := hcovered' ⟨t, .pullWoken, by rw [ht]; rfl⟩
  have hnone : ∑ u, bqCredit (s'.point u) = 0 := by
    apply Finset.sum_eq_zero
    intro u _
    rcases hpoints u with hp | hp
    · rw [hp]
      rfl
    · rw [hp]
      rfl
  obtain ⟨q, hq⟩ := hserial'.good
  rw [hnone, stored_eq hq, Nat.le_zero, List.length_eq_zero_iff] at hstored
  rw [hserial'.free hfree, hq.testEmpty_iff, hstored]

/-- Also while a pull sleeps. -/
theorem calls_come_to_rest_one :
    ∃ es s, Run BqStep (bqThreads (Fin 2) 1 (fun _ => 0)) es s ∧ s.point 0 = .pullAsleep ∧
      Eventually (Proceeds bqProgram)
        (fun s => (∀ t, s.point t = .idle ∨ s.point t = .pullAsleep) ∧ s.holder = none ∧
          SleepsOnEmpty s) s := by
  obtain ⟨es, s, hrun, hpull, -⟩ := sleeps_and_pushes
  exact ⟨es, s, hrun, hpull, calls_come_to_rest 1 (by decide) _ es s hrun⟩

end

end MeshAgent.Proofs
