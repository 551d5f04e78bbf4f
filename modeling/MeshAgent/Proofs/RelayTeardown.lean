import MeshAgent.Model.RelayTeardown

/-!
# Closing a relay

Teardown goes through four phases. The only way off it is a report of the connection to Dubbo
while the other connection waits for its close callback.
-/

namespace MeshAgent.Proofs
open MeshAgent.Foundations MeshAgent.Model MeshAgent.Model.RelayLoop

/-- Each connection is closed at most once, and the relay is freed at most once, after both
are closed. -/
structure ClosedOnce (s : RelayLoop) : Prop where
  closeCalls : ∀ conn, s.closeCalls conn ≤ 1
  freeCalls : s.freeCalls ≤ 1
  freed : 0 < s.freeCalls → ∀ conn, s.handle conn = .closed

/-- `tcp_conn_2` does not report its end while `tcp_conn_1` is closing. -/
def ReportsApart (s : RelayLoop) : RelayInput → Prop
  | .ended .conn2 _ _ => s.handle .conn1 ≠ .closing
  | _ => True

/-- The steps that meet the condition. -/
def TeardownStep (b : Build) (s : RelayLoop) (input : RelayInput) (s' : RelayLoop) : Prop :=
  s.step b input = some s' ∧ ReportsApart s input

/-- How far the teardown is. -/
inductive Phase
  | serving
  | closingFirst
  | closingSecond
  | freed

namespace Phase

def handle : Phase → Conn → Handle
  | serving, _ => .active
  | closingFirst, .conn1 => .closing
  | closingFirst, .conn2 => .active
  | closingSecond, .conn1 => .closed
  | closingSecond, .conn2 => .closing
  | freed, _ => .closed

def closingHandles : Phase → List Conn
  | serving => []
  | closingFirst => [.conn1]
  | closingSecond => [.conn2]
  | freed => []

def closeCalls : Phase → Conn → Nat
  | serving, _ => 0
  | closingFirst, .conn1 => 1
  | closingFirst, .conn2 => 0
  | closingSecond, _ => 1
  | freed, _ => 1

def freeCalls : Phase → Nat
  | freed => 1
  | _ => 0

/-- What the end of an iteration does to the phase. -/
def next : Phase → Phase
  | serving => serving
  | closingFirst => closingSecond
  | closingSecond => freed
  | freed => freed

end Phase

/-- The handles and the counters are those of a phase. -/
structure InPhase (p : Phase) (s : RelayLoop) : Prop where
  handle : ∀ conn, s.handle conn = p.handle conn
  closingHandles : s.closingHandles = p.closingHandles
  closeCalls : ∀ conn, s.closeCalls conn = p.closeCalls conn
  freeCalls : s.freeCalls = p.freeCalls

section

variable {b : Build} {p : Phase} {s s' : RelayLoop}

lemma InPhase.closedOnce (h : InPhase p s) : ClosedOnce s := by
  obtain ⟨hhandle, -, hclose, hfree⟩ := h
  refine ⟨fun conn => ?_, ?_, ?_⟩
  · rw [hclose]
    cases p <;> cases conn <;> decide
  · rw [hfree]
    cases p <;> decide
  · rw [hfree]
    intro hfreed conn
    rw [hhandle]
    cases p with
    | freed => rfl
    | _ => exact absurd hfreed (Nat.lt_irrefl 0)

lemma inPhase_start (raw1 raw2 : Mem UInt8) : InPhase .serving (startRelay raw1 raw2) :=
  ⟨fun _ => rfl, rfl, fun _ => rfl, rfl⟩

lemma InPhase.congr (h : InPhase p s) (hhandle : s'.handle = s.handle)
    (hclosing : s'.closingHandles = s.closingHandles) (hclose : s'.closeCalls = s.closeCalls)
    (hfree : s'.freeCalls = s.freeCalls) : InPhase p s' where
  handle conn := by
    rw [hhandle]
    exact h.handle conn
  closingHandles := hclosing.trans h.closingHandles
  closeCalls conn := by
    rw [hclose]
    exact h.closeCalls conn
  freeCalls := hfree.trans h.freeCalls

lemma InPhase.uvClose (h : InPhase .serving s) : InPhase .closingFirst (s.uvClose .conn1) := by
  obtain ⟨hhandle, hclosing, hclose, hfree⟩ := h
  unfold RelayLoop.uvClose
  simp only [hhandle]
  refine ⟨fun conn => ?_, ?_, fun conn => ?_, hfree⟩
  · cases conn with
    | conn1 => rfl
    | conn2 => exact hhandle .conn2
  · exact congrArg (Conn.conn1 :: ·) hclosing
  · cases conn with
    | conn1 => exact congrArg (· + 1) (hclose .conn1)
    | conn2 => exact hclose .conn2

lemma closeCalls_uvClose (h : InPhase .closingFirst s) :
    (s.uvClose .conn1).closeCalls .conn1 = 2 := by
  have hclose : s.closeCalls .conn1 = 1 := h.closeCalls .conn1
  unfold RelayLoop.uvClose
  simp only [h.handle]
  simp [Phase.handle, hclose]

lemma InPhase.iterationEnds (h : InPhase p s) :
    InPhase p.next (s.closingHandles.foldl finishClose { s with closingHandles := [] }) := by
  obtain ⟨hhandle, hclosing, hclose, hfree⟩ := h
  rw [hclosing]
  cases p with
  | serving => exact ⟨hhandle, rfl, hclose, hfree⟩
  | freed => exact ⟨hhandle, rfl, hclose, hfree⟩
  | closingFirst =>
    simp only [Phase.closingHandles, List.foldl_cons, List.foldl_nil, finishClose, closeCallback,
      RelayLoop.uvClose]
    rw [if_pos]
    · refine ⟨fun conn => ?_, rfl, fun conn => ?_, hfree⟩
      · cases conn <;> rfl
      · cases conn with
        | conn1 => exact hclose .conn1
        | conn2 => exact congrArg (· + 1) (hclose .conn2)
    · exact hhandle .conn2
  | closingSecond =>
    refine ⟨fun conn => ?_, rfl, hclose, congrArg (· + 1) hfree⟩
    cases conn with
    | conn1 => exact hhandle .conn1
    | conn2 => rfl

lemma foldl_perform_frames {events : List RelayEvent}
    (h : ∀ e ∈ events, e ≠ RelayEvent.closeConn1) : events.foldl perform s = s := by
  induction events with
  | nil => rfl
  | cons e events ih =>
    have hrest := ih (fun e' he' => h e' (List.mem_cons_of_mem e he'))
    cases e with
    | frame => exact hrest
    | closeConn1 => exact absurd rfl (h _ (by simp))

lemma pReadConnectionDataHttpReqPass_frames {fresh : Mem UInt8} {relay : TcpRelay} {e : RelayEvent}
    {next : Option TcpRelay} (h : pReadConnectionDataHttpReqPass b fresh relay = .emit e next) :
    e ≠ .closeConn1 := by
  unfold pReadConnectionDataHttpReqPass at h
  rintro rfl
  split at h
  · simp at h
  · split at h <;> simp at h

lemma pOnReadResultsPass_frames {fresh : Mem UInt8} {relay : TcpRelay} {e : RelayEvent}
    {next : Option TcpRelay} (h : pOnReadResultsPass fresh relay = .emit e next) :
    e ≠ .closeConn1 := by
  unfold pOnReadResultsPass at h
  rintro rfl
  split at h
  · simp at h
  · simp only at h
    split at h
    · split at h <;> simp at h
    · simp at h

lemma readChunk_frames (b : Build) (fresh : Mem UInt8) (relay : TcpRelay) {chunk : List UInt8}
    (hchunk : chunk ≠ []) (conn : Conn) :
    ∀ e ∈ (readChunk b fresh relay chunk conn).1, e ≠ .closeConn1 := by
  have hpos : 0 < chunk.length := List.length_pos_iff.mpr hchunk
  cases conn with
  | conn1 =>
    unfold readChunk TcpRelay.read1 pReadConnectionDataHttpReq
    simp only [if_pos (Int.natCast_pos.mpr hpos)]
    exact tracedLoop_trace (fun _ _ _ h => pReadConnectionDataHttpReqPass_frames h) _ _
  | conn2 =>
    unfold readChunk TcpRelay.read2 pOnReadResults
    simp only [if_pos (Int.natCast_pos.mpr hpos)]
    exact tracedLoop_trace (fun _ _ _ h => pOnReadResultsPass_frames h) _ _

lemma readEnd_eq {nread : Int} (hneg : nread < 0) (fresh : Mem UInt8) (relay : TcpRelay)
    (conn : Conn) : readEnd b fresh relay nread conn = ([.closeConn1], some relay) := by
  have hnot : ¬ 0 < nread := by omega
  cases conn with
  | conn1 =>
    unfold readEnd pReadConnectionDataHttpReq
    rw [if_neg hnot, if_pos hneg]
  | conn2 =>
    unfold readEnd pOnReadResults
    rw [if_neg hnot, if_pos hneg]

lemma relayStep_cases {input : RelayInput} (h : s.step b input = some s') :
    ((∀ conn nread fresh, input ≠ .ended conn nread fresh) ∧ s'.handle = s.handle ∧
      s'.closingHandles = s.closingHandles ∧ s'.closeCalls = s.closeCalls ∧
      s'.freeCalls = s.freeCalls) ∨
    (∃ conn nread fresh, input = .ended conn nread fresh ∧ s.Readable conn ∧
      s' = { s with ended := Function.update s.ended conn true }.uvClose .conn1) ∨
    (input = .iterationEnds ∧
      s' = s.closingHandles.foldl finishClose { s with closingHandles := [] }) := by
  unfold RelayLoop.step at h
  split at h
  · simp at h
  · cases input with
    | connected =>
      simp only at h
      split at h
      · simp at h
      · simp only [Option.some.injEq] at h
        subst h
        exact .inl ⟨by simp, rfl, rfl, rfl, rfl⟩
    | connectFailed =>
      simp only at h
      split at h
      · simp at h
      · simp only [Option.some.injEq] at h
        subst h
        exact .inl ⟨by simp, rfl, rfl, rfl, rfl⟩
    | data conn chunk fresh =>
      simp only at h
      split at h
      · simp at h
      · next hguard =>
        have hframes := readChunk_frames b fresh s.relay (not_or.mp (not_or.mp hguard).2).1 conn
        unfold afterCallback at h
        split at h
        · simp at h
        · next heq =>
          rw [heq] at hframes
          rw [foldl_perform_frames hframes, Option.some.injEq] at h
          subst h
          exact .inl ⟨by simp, rfl, rfl, rfl, rfl⟩
    | ended conn nread fresh =>
      simp only at h
      split at h
      · simp at h
      · next hguard =>
        obtain ⟨hreadable, hneg⟩ := not_or.mp hguard
        rw [readEnd_eq (by omega)] at h
        simp only [afterCallback, List.foldl_cons, List.foldl_nil, perform,
          Option.some.injEq] at h
        exact .inr (.inl ⟨conn, nread, fresh, rfl, not_not.mp hreadable, h.symm⟩)
    | iterationEnds =>
      simp only [Option.some.injEq] at h
      exact .inr (.inr ⟨rfl, h.symm⟩)

/-- A step keeps to the phases exactly if it meets the condition. -/
lemma relayStep_phase {input : RelayInput} (hphase : InPhase p s)
    (hstep : s.step b input = some s') :
    (ReportsApart s input → ∃ p', InPhase p' s') ∧ (¬ ReportsApart s input → ¬ ClosedOnce s') := by
  rcases relayStep_cases hstep with
    ⟨hinput, hhandle, hclosing, hclose, hfree⟩ | ⟨conn, nread, fresh, rfl, hreadable, rfl⟩ |
    ⟨rfl, rfl⟩
  · refine ⟨fun _ => ⟨p, hphase.congr hhandle hclosing hclose hfree⟩, fun hnot => ?_⟩
    refine absurd ?_ hnot
    unfold ReportsApart
    split
    · exact absurd rfl (hinput _ _ _)
    · trivial
  · have hactive : p.handle conn = .active := (hphase.handle conn).symm.trans hreadable.2.1
    have hended : InPhase p { s with ended := Function.update s.ended conn true } :=
      hphase.congr rfl rfl rfl rfl
    cases p with
    | serving =>
      refine ⟨fun _ => ⟨_, hended.uvClose⟩, fun hnot => absurd ?_ hnot⟩
      cases conn with
      | conn1 => trivial
      | conn2 =>
        change s.handle .conn1 ≠ .closing
        rw [hphase.handle]
        decide
    | closingFirst =>
      cases conn with
      | conn1 => exact absurd hactive (by decide)
      | conn2 =>
        have hclosing : s.handle .conn1 = .closing := hphase.handle .conn1
        refine ⟨fun happart => absurd hclosing happart, fun _ honce => ?_⟩
        have htwo := honce.closeCalls .conn1
        rw [closeCalls_uvClose hended] at htwo
        omega
    | closingSecond => cases conn <;> exact absurd hactive (by decide)
    | freed => cases conn <;> exact absurd hactive (by decide)
  · exact ⟨fun _ => ⟨p.next, hphase.iterationEnds⟩, fun hnot => absurd trivial hnot⟩

end

/-- As long as `tcp_conn_2` never reports its end while `tcp_conn_1` is closing, each connection
is closed at most once and the relay is freed at most once, after both are closed; a step that
does not meet the condition closes `tcp_conn_1` twice. -/
theorem relay_closedOnce_iff (b : Build) (raw1 raw2 : Mem UInt8) (inputs : List RelayInput)
    (s : RelayLoop) (h : Run (TeardownStep b) (startRelay raw1 raw2) inputs s) :
    ClosedOnce s ∧ ∀ input s', s.step b input = some s' →
      (ClosedOnce s' ↔ ReportsApart s input) := by
  obtain ⟨p, hphase⟩ : ∃ p, InPhase p s := by
    refine h.invariant (P := fun s => ∃ p, InPhase p s) ?_ ⟨_, inPhase_start raw1 raw2⟩
    rintro s input s' ⟨p, hphase⟩ ⟨hstep, happart⟩
    exact (relayStep_phase hphase hstep).1 happart
  refine ⟨hphase.closedOnce, fun input s' hstep => ?_⟩
  obtain ⟨hkept, hbroken⟩ := relayStep_phase hphase hstep
  constructor
  · exact fun honce => by_contra fun hnot => hbroken hnot honce
  · intro happart
    obtain ⟨p', hphase'⟩ := hkept happart
    exact hphase'.closedOnce

/-- The consumer agent closes, and two iterations later the relay is freed. -/
theorem relay_closedOnce_consumer :
    ∃ s, Run (TeardownStep .plain) (startRelay (fun _ => 0) (fun _ => 0))
        [.connected, .ended .conn1 (-4095) (fun _ => 0), .iterationEnds, .iterationEnds] s ∧
      s.freeCalls = 1 ∧ ClosedOnce s := by
  have hrun : Run (TeardownStep .plain) (startRelay (fun _ => 0) (fun _ => 0))
      [.connected, .ended .conn1 (-4095) (fun _ => 0), .iterationEnds, .iterationEnds] _ :=
    ((((Run.nil _).snoc ⟨rfl, trivial⟩).snoc ⟨rfl, trivial⟩).snoc ⟨rfl, trivial⟩).snoc
      ⟨rfl, trivial⟩
  exact ⟨_, hrun, rfl, (relay_closedOnce_iff .plain _ _ _ _ hrun).1⟩

/-- Both connections report their end in one iteration: the process is aborted. -/
theorem relay_closed_twice :
    ∃ s, Run (fun s input s' => s.step .plain input = some s')
        (startRelay (fun _ => 0) (fun _ => 0))
        [.connected, .ended .conn1 (-4095) (fun _ => 0), .ended .conn2 (-4095) (fun _ => 0)] s ∧
      s.closeCalls .conn1 = 2 ∧ s.aborted = true :=
  ⟨_, (((Run.nil _).snoc rfl).snoc rfl).snoc rfl, rfl, rfl⟩

end MeshAgent.Proofs
