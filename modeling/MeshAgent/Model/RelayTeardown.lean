import MeshAgent.Foundations.Runs
import MeshAgent.Model.ProviderAgent
import Mathlib.Logic.Function.Basic

/-!
# The connections of a relay, from connecting to closing

`uv_close` marks a handle, which reports nothing from then on. The close callbacks of an
iteration of the loop run after all its read callbacks; a handle that is marked by one of them
waits for the next iteration.
-/

namespace MeshAgent.Model
open MeshAgent.Foundations

/-- How far a handle is. -/
inductive Handle
  | active
  | closing
  | closed
deriving DecidableEq

/-- `tcp_conn_1`, to the consumer agent, and `tcp_conn_2`, to Dubbo. -/
inductive Conn
  | conn1
  | conn2
deriving DecidableEq

/-- A relay in its loop. `reading` tells whether `uv_read_start` has been called, `ended`
whether a handle has reported an error or the end of its stream; the calls of `uv_close` and
of `free_tcp_relay_t` are counted. -/
structure RelayLoop where
  relay : TcpRelay
  reading : Bool
  handle : Conn → Handle
  ended : Conn → Bool
  closingHandles : List Conn
  closeCalls : Conn → Nat
  freeCalls : Nat
  aborted : Bool

/-- `p_on_new_connection`: the relay is connecting to Dubbo. -/
def startRelay (raw1 raw2 : Mem UInt8) : RelayLoop where
  relay := initTcpRelay pDefaultPackageSize raw1 raw2
  reading := false
  handle := fun _ => .active
  ended := fun _ => false
  closingHandles := []
  closeCalls := fun _ => 0
  freeCalls := 0
  aborted := false

/-- What happens to a relay. `fresh` is what the callback finds in the blocks it allocates. -/
inductive RelayInput
  | connected
  | connectFailed
  | data (conn : Conn) (chunk : List UInt8) (fresh : Mem UInt8)
  | ended (conn : Conn) (nread : Int) (fresh : Mem UInt8)
  | iterationEnds

namespace RelayLoop

/-- `uv_close`, which aborts the process if the handle is marked already. -/
def uvClose (s : RelayLoop) (conn : Conn) : RelayLoop :=
  let s := { s with closeCalls := Function.update s.closeCalls conn (s.closeCalls conn + 1) }
  if s.handle conn = .active then
    { s with
      handle := Function.update s.handle conn .closing
      closingHandles := conn :: s.closingHandles }
  else { s with aborted := true }

/-- `p_close_tcp_relay_connection1` and `p_close_tcp_relay_connection2`. -/
def closeCallback (s : RelayLoop) : Conn → RelayLoop
  | .conn1 => s.uvClose .conn2
  | .conn2 => { s with freeCalls := s.freeCalls + 1 }

/-- libuv closes a marked handle and calls its callback. -/
def finishClose (s : RelayLoop) (conn : Conn) : RelayLoop :=
  { s with handle := Function.update s.handle conn .closed }.closeCallback conn

/-- What a read callback does to the handles. -/
def perform (s : RelayLoop) : RelayEvent → RelayLoop
  | .frame _ _ _ => s
  | .closeConn1 => s.uvClose .conn1

/-- A handle that can report something. -/
def Readable (s : RelayLoop) (conn : Conn) : Prop :=
  s.reading = true ∧ s.handle conn = .active ∧ s.ended conn = false

instance (s : RelayLoop) (conn : Conn) : Decidable (s.Readable conn) :=
  inferInstanceAs (Decidable (_ ∧ _ ∧ _))

/-- The length that libuv is offered for a handle. -/
def offered (relay : TcpRelay) : Conn → Nat
  | .conn1 => pAllocBuffer1 relay
  | .conn2 => pAllocBuffer2 relay

/-- A chunk is stored and the read callback of the handle is called. -/
def readChunk (b : Build) (fresh : Mem UInt8) (relay : TcpRelay) (chunk : List UInt8) :
    Conn → List RelayEvent × Option TcpRelay
  | .conn1 => relay.read1 b fresh chunk
  | .conn2 => relay.read2 fresh chunk

/-- The read callback of the handle is called with an error or the end of the stream. -/
def readEnd (b : Build) (fresh : Mem UInt8) (relay : TcpRelay) (nread : Int) :
    Conn → List RelayEvent × Option TcpRelay
  | .conn1 => pReadConnectionDataHttpReq b fresh relay nread
  | .conn2 => pOnReadResults fresh relay nread

/-- The state after a read callback that returns. -/
def afterCallback (s : RelayLoop) : List RelayEvent × Option TcpRelay → Option RelayLoop
  | (_, none) => none
  | (events, some relay) => some (events.foldl perform { s with relay := relay })

/-- A step; `none` if it cannot happen, or if the callback does not return. -/
def step (b : Build) (s : RelayLoop) (input : RelayInput) : Option RelayLoop :=
  if s.aborted then none
  else
    match input with
    | .connected => if s.reading then none else some { s with reading := true }
    | .connectFailed => if s.reading then none else some s
    | .data conn chunk fresh =>
      if ¬ s.Readable conn ∨ chunk = [] ∨ offered s.relay conn < chunk.length then none
      else s.afterCallback (readChunk b fresh s.relay chunk conn)
    | .ended conn nread fresh =>
      if ¬ s.Readable conn ∨ 0 ≤ nread then none
      else
        { s with ended := Function.update s.ended conn true }.afterCallback
          (readEnd b fresh s.relay nread conn)
    | .iterationEnds =>
      some (s.closingHandles.foldl finishClose { s with closingHandles := [] })

end RelayLoop

end MeshAgent.Model
