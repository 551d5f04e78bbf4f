import MeshAgent.Model.Mesh

/-!
# The mesh with its writes in transmission

A stream takes the bytes of its writes one write after the other, whenever it can, and out of
the records of the clients as they are then: a frame out of `raw_array` and a response out of
`response_package`. Until then nothing of a write has left the event loop.
-/

namespace MeshAgent.Model
open MeshAgent.Foundations

/-- The bytes of a queued write that are still to be transmitted. -/
def UvWrite.unsent (q : UvWrite) : List UInt8 :=
  if q.status = .queued then q.built.drop q.sent.length else []

/-- What a stream is still to transmit, in the order of the calls. -/
def unsentTo (stream : SendStream) (writes : List UvWrite) : List UInt8 :=
  (writes.filter fun q => q.stream = stream).flatMap UvWrite.unsent

/-- Something happens in the mesh, or a stream transmits the next `count` bytes of a write, or
the callback of a complete write is called. -/
inductive SendingEvent
  | mesh (e : MeshEvent)
  | transmit (i count : Nat) (freed : Mem UInt8)
  | written (i : Nat)

/-- An event loop with its writes, and what lies beyond it: `requests` of a link has been
transmitted, and `got` lists the pieces in which the responses have been. -/
structure SendingLoop where
  loop : WorkLoop
  writes : List UvWrite
  outside : Outside

namespace SendingLoop

/-- A callback of the consumer agent. -/
def agent (env : Environment) (startTime : Int) (shared : Shared) (m : SendingLoop) (e : Event) :
    Option (Shared × SendingLoop) :=
  match e with
  | .answer .. => none
  | _ =>
    match m.loop.step env startTime shared e with
    | none => none
    | some (shared', loop') =>
      some (shared',
        { loop := loop'
          writes := m.writes.map (UvWrite.afterCallback e) ++ newWrites env shared m.loop e
          outside := (m.outside.noteRequest env shared m.loop e).dropLink e })

/-- The stream of the write `i` takes the next `count` bytes, once it has taken those of the
writes before. -/
def transmit (m : SendingLoop) (i count : Nat) (freed : Mem UInt8) : Option SendingLoop :=
  match m.writes[i]? with
  | none => none
  | some q =>
    if q.status ≠ .queued ∨ q.streamOpen m.loop = false ∨ count = 0 ∨
        q.built.length < q.sent.length + count ∨ unsentTo q.stream (m.writes.take i) ≠ [] then
      none
    else
      let bytes := q.nextBytes m.loop freed count
      some { m with
        writes := m.writes.set i { q with sent := q.sent ++ bytes }
        outside := m.outside.receive bytes q.stream }

/-- `after_write_to_provider_agent` or `after_write_cb` with status 0. -/
def written (m : SendingLoop) (i : Nat) : Option SendingLoop :=
  match m.writes[i]? with
  | none => none
  | some q =>
    if q.status ≠ .queued ∨ q.sent.length ≠ q.built.length then none
    else some { m with writes := m.writes.set i { q with status := .written } }

/-- A step at one event loop. The relays and Dubbo see only what has been transmitted. -/
def step (b : Build) (env : Environment) (startTime : Int) (shared : Shared) (m : SendingLoop) :
    SendingEvent → Option (Shared × SendingLoop)
  | .mesh (.agent e) => m.agent env startTime shared e
  | .mesh e =>
    ((⟨m.loop, m.outside⟩ : MeshLoop).beyond b shared e).map fun r =>
      (r.1, ⟨r.2.loop, m.writes, r.2.outside⟩)
  | .transmit i count freed => (m.transmit i count freed).map fun m' => (shared, m')
  | .written i => (m.written i).map fun m' => (shared, m')

end SendingLoop

/-- The mesh around a consumer agent with its writes. -/
structure SendingMesh extends SendingWorld where
  outside : Nat → Outside

/-- `consumer`, before anything has been sent. -/
def startSendingMesh (w : World) : SendingMesh := ⟨startSending w, fun _ => startOutside⟩

namespace SendingMesh

def sendingLoop (s : SendingMesh) (tid : Nat) : SendingLoop :=
  ⟨s.world.loops tid, s.writes tid, s.outside tid⟩

/-- A step of the mesh: something happens at one of the event loops or beyond it. -/
def step (b : Build) (env : Environment) (s : SendingMesh) (e : Nat × SendingEvent) :
    Option SendingMesh :=
  if e.1 < eventLoopNum then
    ((s.sendingLoop e.1).step b env s.world.startTime s.world.shared e.2).map fun r =>
      { world := { s.world with
          shared := r.1
          loops := Function.update s.world.loops e.1 r.2.loop }
        writes := Function.update s.writes e.1 r.2.writes
        outside := Function.update s.outside e.1 r.2.outside }
  else none

end SendingMesh

end MeshAgent.Model
