import MeshAgent.Model.ConsumerSystem

/-!
# How `global_conn_remain_count` is kept

The callbacks of the two event loops that touch the counter, cut at its mutex: a step is a
locked section, or what a callback does before or after it. The sections of one loop may be
mixed with those of the other.
-/

namespace MeshAgent.Model

/-- The read callback of a client connection. -/
inductive ReadCallback
  | cReadConnectionData
  | cDummyReadConnectionData
deriving DecidableEq

/-- Where a loop is in a callback: `on_new_connection` has accepted a client, or has read the
counter as well; `c_read_connection_data` has called `uv_close`. -/
inductive CallbackPhase
  | idle
  | accepted (connLimit : Int)
  | tested (tmp connLimit : Int)
  | closing

/-- A loop with its client connections, which are numbered as their reading begins. `ended`
tells whether libuv has delivered an error or the end of the stream. -/
structure AdmissionLoop where
  phase : CallbackPhase
  connections : Nat
  readCallback : Nat → ReadCallback
  ended : Nat → Bool

/-- The loops and what they share. -/
structure Admission where
  startTime : Int
  connRemainCount : Int
  loops : Nat → AdmissionLoop

/-- Before the first connection. -/
def startAdmission (startTime : Int) : Admission where
  startTime := startTime
  connRemainCount := 0
  loops := fun _ => ⟨.idle, 0, fun _ => .cDummyReadConnectionData, fun _ => false⟩

/-- The sections of the callbacks. -/
inductive Section
  | newConnection (curTime : Int)
  | acceptFails
  | testCount
  | startRead
  | data (connection : Nat)
  | ended (connection : Nat)
  | lowerCount

namespace AdmissionLoop

/-- `on_new_connection` up to the mutex: `uv_accept` succeeds. -/
def newConnection (startTime : Int) (loop : AdmissionLoop) (curTime : Int) :
    Option AdmissionLoop :=
  match loop.phase with
  | .idle => some { loop with phase := .accepted (connLimit startTime curTime) }
  | _ => none

/-- `on_new_connection` with an error, or when `uv_accept` fails. -/
def acceptFails (loop : AdmissionLoop) : Option AdmissionLoop :=
  match loop.phase with
  | .idle => some loop
  | _ => none

/-- The locked section of `on_new_connection`. -/
def testCount (count : Int) (loop : AdmissionLoop) : Option (Int × AdmissionLoop) :=
  match loop.phase with
  | .accepted connLimit =>
    let tmp := count
    some (if tmp < connLimit then count + 1 else count,
      { loop with phase := .tested tmp connLimit })
  | _ => none

/-- The rest of `on_new_connection`: the reading of the connection begins. -/
def startRead (loop : AdmissionLoop) : Option AdmissionLoop :=
  match loop.phase with
  | .tested tmp connLimit =>
    let callback := if tmp < connLimit then .cReadConnectionData else .cDummyReadConnectionData
    some
      { phase := .idle
        connections := loop.connections + 1
        readCallback := Function.update loop.readCallback loop.connections callback
        ended := Function.update loop.ended loop.connections false }
  | _ => none

/-- The read callback is called with data, which does not concern the counter. -/
def data (loop : AdmissionLoop) (connection : Nat) : Option AdmissionLoop :=
  match loop.phase with
  | .idle =>
    if loop.connections ≤ connection ∨ loop.ended connection then none else some loop
  | _ => none

/-- The read callback is called with an error or the end of the stream, and calls
`uv_close`. -/
def reportEnd (loop : AdmissionLoop) (connection : Nat) : Option AdmissionLoop :=
  match loop.phase with
  | .idle =>
    if loop.connections ≤ connection ∨ loop.ended connection then none
    else
      let ended := Function.update loop.ended connection true
      match loop.readCallback connection with
      | .cReadConnectionData => some { loop with phase := .closing, ended := ended }
      | .cDummyReadConnectionData => some { loop with ended := ended }
  | _ => none

/-- The locked section of `c_read_connection_data`. -/
def lowerCount (count : Int) (loop : AdmissionLoop) : Option (Int × AdmissionLoop) :=
  match loop.phase with
  | .closing => some (count - 1, { loop with phase := .idle })
  | _ => none

/-- A section of a callback, with the counter that it finds and leaves. -/
def step (startTime count : Int) (loop : AdmissionLoop) : Section → Option (Int × AdmissionLoop)
  | .newConnection curTime => (loop.newConnection startTime curTime).map (count, ·)
  | .acceptFails => loop.acceptFails.map (count, ·)
  | .testCount => loop.testCount count
  | .startRead => loop.startRead.map (count, ·)
  | .data connection => (loop.data connection).map (count, ·)
  | .ended connection => (loop.reportEnd connection).map (count, ·)
  | .lowerCount => loop.lowerCount count

end AdmissionLoop

/-- A step of the agent: one of the loops executes a section. -/
def Admission.step (a : Admission) (e : Nat × Section) : Option Admission :=
  if e.1 < eventLoopNum then
    ((a.loops e.1).step a.startTime a.connRemainCount e.2).map fun r =>
      { a with connRemainCount := r.1, loops := Function.update a.loops e.1 r.2 }
  else none

end MeshAgent.Model
