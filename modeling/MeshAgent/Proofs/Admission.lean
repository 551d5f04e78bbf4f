import MeshAgent.Foundations.Tally
import MeshAgent.Model.Admission

/-!
# The counter of client connections is exact

A loop accounts for its admitted connections, and for the one that a callback has counted and
not yet begun to read, or closed and not yet uncounted. The counter is the sum over the loops
whatever the order of the sections.
-/

namespace MeshAgent.Proofs
open MeshAgent.Foundations MeshAgent.Model

/-- An admitted connection that has not reported its end. -/
def isOpen (readCallback : Nat → ReadCallback) (ended : Nat → Bool) (connection : Nat) : Bool :=
  decide (readCallback connection = .cReadConnectionData) && !ended connection

/-- The number of admitted connections of a loop that have not reported their end. -/
def openConnections (loop : AdmissionLoop) : Nat :=
  tally (isOpen loop.readCallback loop.ended) loop.connections

/-- What the callback that is running accounts for. -/
def CallbackPhase.share : CallbackPhase → Nat
  | .idle => 0
  | .accepted _ => 0
  | .tested tmp connLimit => if tmp < connLimit then 1 else 0
  | .closing => 1

/-- What a loop accounts for. -/
def countedConnections (loop : AdmissionLoop) : Nat :=
  openConnections loop + CallbackPhase.share loop.phase

/-- The limit that a callback has computed, if it has not used it, is within a bound. -/
def LimitWithin (bound : Int) (loop : AdmissionLoop) : Prop :=
  ∀ connLimit, loop.phase = .accepted connLimit → connLimit ≤ bound

/-- The ways a section can end. -/
inductive SectionStep (startTime count : Int) (loop : AdmissionLoop) :
    Section → Int → AdmissionLoop → Prop
  | newConnection {curTime : Int} (idle : loop.phase = .idle) :
      SectionStep startTime count loop (.newConnection curTime) count
        { loop with phase := .accepted (connLimit startTime curTime) }
  | acceptFails : SectionStep startTime count loop .acceptFails count loop
  | admitted {limit : Int} (accepted : loop.phase = .accepted limit) (below : count < limit) :
      SectionStep startTime count loop .testCount (count + 1)
        { loop with phase := .tested count limit }
  | refused {limit : Int} (accepted : loop.phase = .accepted limit) (full : limit ≤ count) :
      SectionStep startTime count loop .testCount count
        { loop with phase := .tested count limit }
  | startRead {tmp limit : Int} (tested : loop.phase = .tested tmp limit) :
      SectionStep startTime count loop .startRead count
        { phase := .idle
          connections := loop.connections + 1
          readCallback := Function.update loop.readCallback loop.connections
            (if tmp < limit then .cReadConnectionData else .cDummyReadConnectionData)
          ended := Function.update loop.ended loop.connections false }
  | data {connection : Nat} : SectionStep startTime count loop (.data connection) count loop
  | clientEnd {connection : Nat} (idle : loop.phase = .idle)
      (known : connection < loop.connections) (reading : loop.ended connection = false)
      (callback : loop.readCallback connection = .cReadConnectionData) :
      SectionStep startTime count loop (.ended connection) count
        { loop with phase := .closing, ended := Function.update loop.ended connection true }
  | dummyEnd {connection : Nat}
      (callback : loop.readCallback connection = .cDummyReadConnectionData) :
      SectionStep startTime count loop (.ended connection) count
        { loop with ended := Function.update loop.ended connection true }
  | lowerCount (closing : loop.phase = .closing) :
      SectionStep startTime count loop .lowerCount (count - 1) { loop with phase := .idle }

section

variable {startTime count count' bound : Int} {loop loop' : AdmissionLoop} {e : Section}

theorem sectionStep_of_step (h : loop.step startTime count e = some (count', loop')) :
    SectionStep startTime count loop e count' loop' := by
  cases e with
  | newConnection curTime =>
    simp only [AdmissionLoop.step, AdmissionLoop.newConnection] at h
    split at h
    · next hidle =>
      simp only [Option.map_some, Option.some.injEq, Prod.mk.injEq] at h
      obtain ⟨rfl, rfl⟩ := h
      exact .newConnection hidle
    · simp at h
  | acceptFails =>
    simp only [AdmissionLoop.step, AdmissionLoop.acceptFails] at h
    split at h
    · simp only [Option.map_some, Option.some.injEq, Prod.mk.injEq] at h
      obtain ⟨rfl, rfl⟩ := h
      exact .acceptFails
    · simp at h
  | testCount =>
    simp only [AdmissionLoop.step, AdmissionLoop.testCount] at h
    split at h
    · next limit haccepted =>
      simp only [Option.some.injEq, Prod.mk.injEq] at h
      obtain ⟨rfl, rfl⟩ := h
      split
      · next hbelow => exact .admitted haccepted hbelow
      · next hfull => exact .refused haccepted (by omega)
    · simp at h
  | startRead =>
    simp only [AdmissionLoop.step, AdmissionLoop.startRead] at h
    split at h
    · next tmp limit htested =>
      simp only [Option.map_some, Option.some.injEq, Prod.mk.injEq] at h
      obtain ⟨rfl, rfl⟩ := h
      exact .startRead htested
    · simp at h
  | data connection =>
    simp only [AdmissionLoop.step, AdmissionLoop.data] at h
    split at h
    · split at h
      · simp at h
      · simp only [Option.map_some, Option.some.injEq, Prod.mk.injEq] at h
        obtain ⟨rfl, rfl⟩ := h
        exact .data
    · simp at h
  | ended connection =>
    simp only [AdmissionLoop.step, AdmissionLoop.reportEnd] at h
    split at h
    · next hidle =>
      split at h
      · simp at h
      · next hguard =>
        simp only [not_or, not_le, Bool.not_eq_true] at hguard
        split at h
        · next hcallback =>
          simp only [Option.map_some, Option.some.injEq, Prod.mk.injEq] at h
          obtain ⟨rfl, rfl⟩ := h
          exact .clientEnd hidle hguard.1 hguard.2 hcallback
        · next hcallback =>
          simp only [Option.map_some, Option.some.injEq, Prod.mk.injEq] at h
          obtain ⟨rfl, rfl⟩ := h
          exact .dummyEnd hcallback
    · simp at h
  | lowerCount =>
    simp only [AdmissionLoop.step, AdmissionLoop.lowerCount] at h
    split at h
    · next hclosing =>
      simp only [Option.some.injEq, Prod.mk.injEq] at h
      obtain ⟨rfl, rfl⟩ := h
      exact .lowerCount hclosing
    · simp at h

lemma tally_startRead (readCallback : Nat → ReadCallback) (ended : Nat → Bool) (n : Nat)
    (callback : ReadCallback) :
    tally (isOpen (Function.update readCallback n callback) (Function.update ended n false))
        (n + 1) =
      tally (isOpen readCallback ended) n +
        if callback = .cReadConnectionData then 1 else 0 := by
  have hsame : ∀ i, i < n → isOpen (Function.update readCallback n callback)
      (Function.update ended n false) i = isOpen readCallback ended i := by
    intro i hi
    unfold isOpen
    rw [Function.update_of_ne (by omega), Function.update_of_ne (by omega)]
  rw [tally_succ, tally_congr hsame]
  unfold isOpen
  simp only [Function.update_self, Bool.not_false, Bool.and_true, decide_eq_true_eq]

lemma tally_clientEnd {readCallback : Nat → ReadCallback} {ended : Nat → Bool} {n connection : Nat}
    (known : connection < n) (reading : ended connection = false)
    (callback : readCallback connection = .cReadConnectionData) :
    tally (isOpen readCallback (Function.update ended connection true)) n + 1 =
      tally (isOpen readCallback ended) n := by
  apply tally_lower known
  · unfold isOpen
    rw [callback, reading]
    rfl
  · unfold isOpen
    rw [Function.update_self, Bool.not_true, Bool.and_false]
  · intro i hi
    unfold isOpen
    rw [Function.update_of_ne hi]

lemma tally_dummyEnd {readCallback : Nat → ReadCallback} (ended : Nat → Bool) (n : Nat)
    {connection : Nat} (callback : readCallback connection = .cDummyReadConnectionData) :
    tally (isOpen readCallback (Function.update ended connection true)) n =
      tally (isOpen readCallback ended) n := by
  apply tally_congr
  intro i _
  unfold isOpen
  by_cases hi : i = connection
  · subst hi
    rw [callback]
    rfl
  · rw [Function.update_of_ne hi]

lemma counted_section (h : SectionStep startTime count loop e count' loop') :
    count' - count = (countedConnections loop' : Int) - countedConnections loop := by
  cases h with
  | newConnection idle =>
    simp only [countedConnections, openConnections, CallbackPhase.share, idle]
    omega
  | acceptFails => omega
  | admitted accepted below =>
    simp only [countedConnections, openConnections, CallbackPhase.share, accepted, if_pos below]
    omega
  | refused accepted full =>
    simp only [countedConnections, openConnections, CallbackPhase.share, accepted,
      if_neg (Int.not_lt.mpr full)]
    omega
  | @startRead tmp limit tested =>
    simp only [countedConnections, openConnections, CallbackPhase.share, tested, tally_startRead]
    by_cases hadmitted : tmp < limit
    · rw [if_pos hadmitted, if_pos hadmitted, if_pos rfl]
      omega
    · rw [if_neg hadmitted, if_neg hadmitted, if_neg (by decide)]
      omega
  | data => omega
  | clientEnd idle known reading callback =>
    have hopen := tally_clientEnd known reading callback
    simp only [countedConnections, openConnections, CallbackPhase.share, idle]
    omega
  | @dummyEnd connection callback =>
    simp only [countedConnections, openConnections, tally_dummyEnd loop.ended _ callback]
    omega
  | lowerCount closing =>
    simp only [countedConnections, openConnections, CallbackPhase.share, closing]
    omega

lemma bounded_section (h : SectionStep startTime count loop e count' loop')
    (hcount : count ≤ bound) (hlimit : LimitWithin bound loop)
    (hnew : ∀ curTime, e = .newConnection curTime → connLimit startTime curTime ≤ bound) :
    count' ≤ bound ∧ LimitWithin bound loop' := by
  cases h with
  | @newConnection curTime =>
    refine ⟨hcount, ?_⟩
    rintro limit ⟨⟩
    exact hnew curTime rfl
  | acceptFails => exact ⟨hcount, hlimit⟩
  | admitted accepted below =>
    have hbelow := hlimit _ accepted
    exact ⟨by omega, fun limit htested => by simp at htested⟩
  | refused => exact ⟨hcount, fun limit htested => by simp at htested⟩
  | startRead => exact ⟨hcount, fun limit hidle => by simp at hidle⟩
  | data => exact ⟨hcount, hlimit⟩
  | clientEnd => exact ⟨hcount, fun limit hclosing => by simp at hclosing⟩
  | dummyEnd => exact ⟨hcount, hlimit⟩
  | lowerCount => exact ⟨by omega, fun limit hidle => by simp at hidle⟩

end

lemma admissionStep_cases {a a' : Admission} {e : Nat × Section} (h : a.step e = some a') :
    e.1 < eventLoopNum ∧ ∃ count loop,
      SectionStep a.startTime a.connRemainCount (a.loops e.1) e.2 count loop ∧
      a' = { a with connRemainCount := count, loops := Function.update a.loops e.1 loop } := by
  unfold Admission.step at h
  split at h
  · next hloop =>
    obtain ⟨⟨count, loop⟩, hstep, rfl⟩ := Option.map_eq_some_iff.mp h
    exact ⟨hloop, count, loop, sectionStep_of_step hstep, rfl⟩
  · simp at h

/-- The runs of the agent. -/
def AdmissionRun (startTime : Int) (es : List (Nat × Section)) (a : Admission) : Prop :=
  Run (fun a e a' => a.step e = some a') (startAdmission startTime) es a

section

variable {startTime : Int} {es : List (Nat × Section)} {a : Admission}

lemma AdmissionRun.counted (h : AdmissionRun startTime es a) :
    a.connRemainCount =
      ((∑ tid ∈ Finset.range eventLoopNum, countedConnections (a.loops tid) : Nat) : Int) := by
  refine Run.invariant (P := fun a : Admission => a.connRemainCount =
    ((∑ tid ∈ Finset.range eventLoopNum, countedConnections (a.loops tid) : Nat) : Int)) ?_ h rfl
  intro a e a' hcounted hstep
  obtain ⟨hloop, count, loop, hsection, rfl⟩ := admissionStep_cases hstep
  have hbalance := counted_section hsection
  have hsum := sum_range_update countedConnections a.loops hloop loop
  simp only at hcounted ⊢
  omega

lemma AdmissionRun.bounded (h : AdmissionRun startTime es a) {bound : Int} (hbound : 0 ≤ bound)
    (haccepts : ∀ tid curTime, (tid, Section.newConnection curTime) ∈ es →
      connLimit startTime curTime ≤ bound) : a.connRemainCount ≤ bound := by
  have hinv := Run.history (P := fun es a => (∀ tid curTime,
      (tid, Section.newConnection curTime) ∈ es → connLimit startTime curTime ≤ bound) →
    a.startTime = startTime ∧ a.connRemainCount ≤ bound ∧
      ∀ tid, LimitWithin bound (a.loops tid)) h ?_ ?_
  · exact (hinv haccepts).2.1
  · intro _
    exact ⟨rfl, hbound, fun _ limit hidle => by simp [startAdmission] at hidle⟩
  · intro es a e a' ih hstep haccepts
    obtain ⟨hstart, hcount, hlimits⟩ := ih fun tid curTime hmem =>
      haccepts tid curTime (List.mem_append_left _ hmem)
    obtain ⟨-, count, loop, hsection, rfl⟩ := admissionStep_cases hstep
    obtain ⟨hcount', hlimit'⟩ := bounded_section hsection hcount (hlimits e.1) (by
      intro curTime he
      rw [hstart]
      apply haccepts e.1 curTime
      rw [← he]
      simp)
    exact ⟨hstart, hcount', (Function.forall_update_iff _ fun _ loop =>
      LimitWithin bound loop).mpr ⟨hlimit', fun tid _ => hlimits tid⟩⟩

end

/-- In every state of a run the counter is not negative and at most 1024, and at most 256 as long
as every client has been accepted in the first 30 seconds; while no callback is running it is
the number of admitted connections that have not reported an error or the end of the stream. -/
theorem admission_exact (startTime : Int) (es : List (Nat × Section)) (a : Admission)
    (h : AdmissionRun startTime es a) :
    0 ≤ a.connRemainCount ∧ a.connRemainCount ≤ 1024 ∧
    ((∀ tid curTime, (tid, Section.newConnection curTime) ∈ es →
      curTime - startTime < 30000000) → a.connRemainCount ≤ 256) ∧
    ((∀ tid, tid < eventLoopNum → (a.loops tid).phase = .idle) →
      a.connRemainCount =
        ((∑ tid ∈ Finset.range eventLoopNum, openConnections (a.loops tid) : Nat) : Int)) := by
  have hcounted := h.counted
  refine ⟨by omega, h.bounded (by decide) ?_, fun hearly => h.bounded (by decide) ?_, ?_⟩
  · intro tid curTime _
    unfold connLimit
    split <;> decide
  · intro tid curTime hmem
    have htime := hearly tid curTime hmem
    unfold connLimit
    rw [if_neg (by omega)]
  · intro hidle
    rw [hcounted]
    congr 1
    apply Finset.sum_congr rfl
    intro tid htid
    unfold countedConnections
    rw [hidle tid (Finset.mem_range.mp htid)]
    rfl

/-- Each loop accepts a client, and one of the clients leaves. -/
theorem admission_exact_two :
    ∃ es a, AdmissionRun 0 es a ∧ a.connRemainCount = 1 ∧ a.connRemainCount ≤ 256 ∧
      a.connRemainCount =
        ((∑ tid ∈ Finset.range eventLoopNum, openConnections (a.loops tid) : Nat) : Int) := by
  obtain ⟨a, hrun, hone, hidle⟩ : ∃ a, AdmissionRun 0
      [(0, .newConnection 1), (1, .newConnection 1), (0, .testCount), (1, .testCount),
        (1, .startRead), (0, .startRead), (1, .ended 0), (1, .lowerCount)] a ∧
      a.connRemainCount = 1 ∧ ∀ tid, tid < 2 → (a.loops tid).phase = .idle :=
    ⟨_, Run.of_foldlM (fun _ _ _ hstep => hstep) rfl, rfl, fun tid htid => by
      match tid, htid with
      | 0, _ => rfl
      | 1, _ => rfl⟩
  obtain ⟨-, -, hearly, hexact⟩ := admission_exact 0 _ a hrun
  refine ⟨_, a, hrun, hone, hearly ?_, hexact hidle⟩
  intro tid curTime hmem
  simp only [List.mem_cons, Prod.mk.injEq, Section.newConnection.injEq, reduceCtorEq, and_false,
    or_false, List.not_mem_nil] at hmem
  omega

end MeshAgent.Proofs
