import MeshAgent.Model.ConsumerSystem

/-!
# What `uv_write` still has to transmit

`uv_write` copies nothing. It keeps a reference to the buffer of its caller, here a part of
the record of a client, and reads it whenever the stream takes more bytes, up to the call of
the callback.
-/

namespace MeshAgent.Model
open MeshAgent.Foundations

/-- The buffer of a write, which also tells its stream: `send_to_provider_agent` writes a
part of `raw_array` to an endpoint, `c_read_from_provide_agents` writes `response_package`
to the client. -/
inductive SendBuffer
  | rawArray (endpoint reqId : Nat) (rawArrayStartOffset : Int)
  | responsePackage
deriving DecidableEq

/-- Whether the callback has been called, and how. -/
inductive WriteStatus
  | queued
  | written
  | failed
deriving DecidableEq

/-- `uv_write_t` of a buffer of `client`. `built` are the bytes of the buffer when `uv_write`
was called, `sent` the bytes that have been transmitted. -/
structure UvWrite where
  client : Nat
  buffer : SendBuffer
  built : List UInt8
  sent : List UInt8
  status : WriteStatus

/-- The agent with the writes of each loop, in the order of the calls. -/
structure SendingWorld where
  world : World
  writes : Nat → List UvWrite

/-- A loop calls a callback of the agent, or transmits the next `count` bytes of a write, or
calls the callback of a write that is complete. `freed` is what the allocator has made of a
record that does not exist any more. -/
inductive SendEvent
  | callback (e : Event)
  | transmit (i count : Nat) (freed : Mem UInt8)
  | written (i : Nat)

/-- `consumer`: nothing has been written. -/
def startSending (w : World) : SendingWorld := ⟨w, fun _ => []⟩

namespace UvWrite

/-- Where the buffer begins. -/
def offset (q : UvWrite) : Int :=
  match q.buffer with
  | .rawArray _ _ rawArrayStartOffset => rawArrayStartOffset
  | .responsePackage => 0

/-- The array of the record that the buffer is a part of. -/
def memory (q : UvWrite) (httpReq : HttpReq) : Mem UInt8 :=
  match q.buffer with
  | .rawArray .. => httpReq.rawArray
  | .responsePackage => httpReq.responsePackage

/-- What the next `count` bytes of the buffer are now. -/
def nextBytes (q : UvWrite) (loop : WorkLoop) (freed : Mem UInt8) (count : Nat) : List UInt8 :=
  let memory :=
    match loop.evLoop.reqs q.client with
    | some httpReq => q.memory httpReq
    | none => freed
  memory.read (q.offset + q.sent.length) count

/-- The stream of the write takes bytes. -/
def streamOpen (q : UvWrite) (loop : WorkLoop) : Bool :=
  match q.buffer with
  | .rawArray endpoint _ _ => (loop.streams endpoint).connection = .established
  | .responsePackage => !loop.closing q.client

/-- The stream of the write is closed, or not connected: libuv gives the write up. -/
def failsAt (q : UvWrite) : Event → Bool
  | .providerEnd which | .connectFailed which =>
    match q.buffer with
    | .rawArray endpoint _ _ => endpoint = which
    | .responsePackage => false
  | .clientEnd client _ =>
    match q.buffer with
    | .rawArray .. => false
    | .responsePackage => q.client = client
  | _ => false

/-- The write after a callback of the agent. -/
def afterCallback (e : Event) (q : UvWrite) : UvWrite :=
  if q.status = .queued ∧ q.failsAt e then { q with status := .failed } else q

/-- The write is not a request with this id of which a part is still to be transmitted. -/
def permitsAnswer (reqId : Nat) (q : UvWrite) : Bool :=
  match q.buffer with
  | .rawArray _ id _ => id ≠ reqId || q.sent.length = q.built.length
  | .responsePackage => true

end UvWrite

/-- A provider agent cannot answer a request before it has all of it. -/
def answersEarly (writes : List UvWrite) : Event → Bool
  | .answer _ reqId _ => !writes.all (UvWrite.permitsAnswer reqId)
  | _ => false

/-- `raw_array_start_offset` of a call of `c_read_connection_data`. -/
def rawArrayStartOffset (env : Environment) (httpReq : HttpReq) (nread : Int) : Int :=
  let httpReq := { httpReq with rawArraySize := httpReq.rawArraySize + nread.toNat }
  (parseHeader env httpReq).1.requestLength - 12

/-- The writes that a callback queues. A closed stream refuses them. -/
def newWrites (env : Environment) (shared : Shared) (loop : WorkLoop) : Event → List UvWrite
  | .clientRead client chunk stale now =>
    match loop.evLoop.reqs client with
    | none => []
    | some httpReq =>
      match cReadConnectionData env shared.lb loop.evLoop.server client (httpReq.store chunk)
          chunk.length stale now with
      | some (.dispatch d _ _ _) =>
        if (loop.streams d.endpoint).connection = .closing then []
        else
          let offset := rawArrayStartOffset env (httpReq.store chunk) chunk.length
          [⟨client, .rawArray d.endpoint d.reqId offset, d.bytes, [], .queued⟩]
      | _ => []
  | .replyPass now =>
    match loop.reading with
    | none => []
    | some which =>
      match loop.nextPass shared which now with
      | .emit reply (some _) =>
        match reply.client with
        | none => []
        | some client =>
          if loop.closing client then []
          else [⟨client, .responsePackage, reply.payload, [], .queued⟩]
      | _ => []
  | _ => []

namespace SendingWorld

/-- A callback of the agent. -/
def callback (env : Environment) (s : SendingWorld) (tid : Nat) (e : Event) :
    Option SendingWorld :=
  let writes := s.writes tid
  if answersEarly writes e then none
  else
    (s.world.step env (tid, e)).map fun world =>
      { world := world
        writes := Function.update s.writes tid
          (writes.map (UvWrite.afterCallback e) ++
            newWrites env s.world.shared (s.world.loops tid) e) }

/-- The stream of the write `i` takes the next `count` bytes, out of the buffer as it is. -/
def transmit (s : SendingWorld) (tid i count : Nat) (freed : Mem UInt8) : Option SendingWorld :=
  match (s.writes tid)[i]? with
  | none => none
  | some q =>
    let loop := s.world.loops tid
    if q.status ≠ .queued ∨ q.streamOpen loop = false ∨ q.built.length < q.sent.length + count then
      none
    else some { s with writes := Function.update s.writes tid ((s.writes tid).set i
      { q with sent := q.sent ++ q.nextBytes loop freed count }) }

/-- `after_write_to_provider_agent` or `after_write_cb` with status 0. -/
def written (s : SendingWorld) (tid i : Nat) : Option SendingWorld :=
  match (s.writes tid)[i]? with
  | none => none
  | some q =>
    if q.status ≠ .queued ∨ q.sent.length ≠ q.built.length then none
    else some { s with writes := Function.update s.writes tid ((s.writes tid).set i
      { q with status := .written }) }

/-- A step of the agent or of one of its writes. -/
def step (env : Environment) (s : SendingWorld) (e : Nat × SendEvent) : Option SendingWorld :=
  if e.1 < eventLoopNum then
    match e.2 with
    | .callback event => s.callback env e.1 event
    | .transmit i count freed => s.transmit e.1 i count freed
    | .written i => s.written e.1 i
  else none

end SendingWorld

end MeshAgent.Model
