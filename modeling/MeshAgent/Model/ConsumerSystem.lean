import MeshAgent.Foundations.Runs
import MeshAgent.Model.ConsumerAgent

/-!
# The consumer agent with its clients and provider agents

The two event loops share the load balancer and the number of connections, each behind a
lock. A step is a callback, or one pass of the reply loop, which takes the lock once for
each frame: the passes of one loop may be mixed with the callbacks of the other. What libuv
and the network contribute is kept per connection.
-/

namespace MeshAgent.Model
open MeshAgent.Foundations

/-- How far the connection of an endpoint is: `uv_tcp_connect` has been called, or its
callback has reported success, or `uv_close` has been called. -/
inductive Connection
  | connecting
  | established
  | closing
deriving DecidableEq

/-- The connection of an endpoint. `pending` are the ids handed to `uv_write` that the
provider agent has not answered (all of them are queued while connecting), `inTransit` the
ids of the answers that the reply loop has not handled, `inbound` their unread bytes. -/
structure ProviderStream where
  connection : Connection
  pending : List Nat
  inTransit : List Nat
  inbound : List UInt8

/-- A work event loop. `reading` is the endpoint whose reply callback is in its loop,
`accepted` the number of admitted clients, which are its names, `closing` those that wait
for `close_cb`. `owner` remembers for which client an id has been used. -/
structure WorkLoop where
  evLoop : EventLoop
  streams : Nat → ProviderStream
  reading : Option Nat
  listenCalls : Nat
  accepted : Nat
  closing : Nat → Bool
  owner : Nat → Option Nat

/-- What the loops share: `global_lb` and `global_conn_remain_count`. -/
structure Shared where
  lb : LoadBalancer
  connRemainCount : Int

/-- The agent; `startTime` is `start_time`. -/
structure World where
  startTime : Int
  shared : Shared
  loops : Nat → WorkLoop

/-- `make_connection_to_agent_`: unless the endpoint is connected, a new stream takes the
place of the old one. -/
def makeConnectionToAgent (server : EndpointServer) (stream : ProviderStream) : ProviderStream :=
  if server.connStatus ≠ 0 then ⟨.connecting, [], [], []⟩ else stream

/-- `c_after_connect_to_a_agent` with status 0; the second result tells whether it calls
`start_listen`. -/
def cAfterConnectToAAgent (numEndpointServers which : Nat) (evLoop : EventLoop) :
    EventLoop × Bool :=
  let server := { evLoop.server.endpointServers which with connStatus := 0 }
  let evLoop := evLoop.setEndpoint which server
  let count := evLoop.server.endpointConnectionCount + 1
  ({ evLoop with server := { evLoop.server with endpointConnectionCount := count } },
    decide (count = numEndpointServers))

/-- `start_work_event_loop`, up to `uv_run`: every endpoint is connecting. -/
def startWorkEventLoop (tid : Nat) (raw : Nat → Mem UInt8) : WorkLoop where
  evLoop := ⟨initTcpServer tid raw, fun _ => none⟩
  streams := fun _ => ⟨.connecting, [], [], []⟩
  reading := none
  listenCalls := 0
  accepted := 0
  closing := fun _ => false
  owner := fun _ => none

/-- `consumer`, with `numEndpointServers` endpoints. -/
def consumer (numEndpointServers : Nat) (startTime : Int)
    (raw : Nat → Nat → Mem UInt8) : World where
  startTime := startTime
  shared := ⟨initLoadBalancer numEndpointServers, 0⟩
  loops := fun tid => startWorkEventLoop tid (raw tid)

/-- `conn_limit` of `on_new_connection`. -/
def connLimit (startTime curTime : Int) : Int :=
  if 30000000 < curTime - startTime then 1024 else 256

/-- `close_cb`, which is `free_http_req`: the table is left as it is. -/
def closeCb (evLoop : EventLoop) (client : Nat) : EventLoop :=
  { evLoop with reqs := Function.update evLoop.reqs client none }

/-- `uv_write` on the stream of an endpoint, which fails once the stream is closed. -/
def ProviderStream.write (stream : ProviderStream) (reqId : Nat) : ProviderStream :=
  if stream.connection = .closing then stream
  else { stream with pending := stream.pending ++ [reqId] }

/-- The reply frame that a provider agent sends for an id. -/
def replyFrame (reqId : Nat) (payload : List UInt8) : List UInt8 :=
  intToFourChar payload.length ++ longTo8bytes reqId ++ payload

/-! ### Steps of one loop -/

/-- What happens at a loop. -/
inductive Event
  | accept (raw response : Mem UInt8) (contentLength tsReqBeg curTime : Int)
  | clientRead (client : Nat) (chunk : List UInt8) (stale now : Int)
  | clientEnd (client : Nat) (nread : Int)
  | closed (client : Nat)
  | answer (which reqId : Nat) (payload : List UInt8)
  | replyRead (which : Nat) (chunk : List UInt8)
  | replyPass (now : Int)
  | providerEnd (which : Nat)
  | reconnect (which : Nat)
  | connected (which : Nat)
  | connectFailed (which : Nat)

namespace WorkLoop

/-- The stream of an endpoint replaced. -/
def setStream (loop : WorkLoop) (which : Nat) (stream : ProviderStream) : WorkLoop :=
  { loop with streams := Function.update loop.streams which stream }

/-- The record of a client replaced. -/
def setReq (loop : WorkLoop) (client : Nat) (httpReq : HttpReq) : WorkLoop :=
  { loop with evLoop := { loop.evLoop with
      reqs := Function.update loop.evLoop.reqs client (some httpReq) } }

/-- `on_new_connection`: a connection above the limit gets no record. -/
def onNewConnection (startTime : Int) (shared : Shared) (loop : WorkLoop)
    (raw response : Mem UInt8) (contentLength tsReqBeg curTime : Int) :
    Option (Shared × WorkLoop) :=
  if loop.reading ≠ none ∨ loop.listenCalls = 0 then none
  else if shared.connRemainCount < connLimit startTime curTime then
    some ({ shared with connRemainCount := shared.connRemainCount + 1 },
      { loop.setReq loop.accepted (initHttpReq (2 * defaultPackageSize) raw response contentLength
          tsReqBeg) with
        accepted := loop.accepted + 1 })
  else some (shared, loop)

/-- A chunk of a client is stored, and `c_read_connection_data` is called. -/
def clientRead (env : Environment) (shared : Shared) (loop : WorkLoop) (client : Nat)
    (chunk : List UInt8) (stale now : Int) : Option (Shared × WorkLoop) :=
  match loop.evLoop.reqs client with
  | none => none
  | some httpReq =>
    if loop.reading ≠ none ∨ loop.closing client ∨ chunk = [] ∨
        allocBuffer httpReq < chunk.length then none
    else
      match cReadConnectionData env shared.lb loop.evLoop.server client (httpReq.store chunk)
          chunk.length stale now with
      | some (.wait httpReq) => some (shared, loop.setReq client httpReq)
      | some (.dispatch d lb server httpReq) =>
        let loop := (loop.setReq client httpReq).setStream d.endpoint
          ((loop.streams d.endpoint).write d.reqId)
        some ({ shared with lb := lb },
          { loop with
            evLoop := { loop.evLoop with server := server }
            owner := Function.update loop.owner d.reqId (some client) })
      | some .close => none
      | none => none

/-- `c_read_connection_data` is called with an error or the end of the stream, and calls
`uv_close`. -/
def clientEnd (env : Environment) (shared : Shared) (loop : WorkLoop) (client : Nat)
    (nread : Int) : Option (Shared × WorkLoop) :=
  match loop.evLoop.reqs client with
  | none => none
  | some httpReq =>
    if loop.reading ≠ none ∨ loop.closing client then none
    else
      match cReadConnectionData env shared.lb loop.evLoop.server client httpReq nread 0 0 with
      | some .close =>
        some ({ shared with connRemainCount := shared.connRemainCount - 1 },
          { loop with closing := Function.update loop.closing client true })
      | _ => none

/-- libuv calls `close_cb`. -/
def closed (shared : Shared) (loop : WorkLoop) (client : Nat) : Option (Shared × WorkLoop) :=
  if loop.reading ≠ none ∨ ¬ loop.closing client then none
  else some (shared, { loop with
    evLoop := closeCb loop.evLoop client
    closing := Function.update loop.closing client false })

/-- A provider agent answers a request that it has received. -/
def answer (shared : Shared) (loop : WorkLoop) (which reqId : Nat) (payload : List UInt8) :
    Option (Shared × WorkLoop) :=
  let stream := loop.streams which
  if stream.connection ≠ .established ∨ reqId ∉ stream.pending ∨
      defaultResponseSize < 12 + payload.length then none
  else some (shared, loop.setStream which { stream with
    pending := stream.pending.erase reqId
    inTransit := stream.inTransit ++ [reqId]
    inbound := stream.inbound ++ replyFrame reqId payload })

/-- A chunk of a provider agent is stored, and `c_read_from_provide_agents` reaches its
loop. -/
def replyRead (shared : Shared) (loop : WorkLoop) (which : Nat) (chunk : List UInt8) :
    Option (Shared × WorkLoop) :=
  let stream := loop.streams which
  let server := loop.evLoop.server.endpointServers which
  if loop.reading ≠ none ∨ stream.connection ≠ .established ∨ chunk = [] ∨
      allocBufferToAgent server < chunk.length ∨ ¬ chunk <+: stream.inbound then none
  else
    let server := { server.store chunk with
      sizeOfRawArray := server.sizeOfRawArray + chunk.length }
    let loop := loop.setStream which { stream with inbound := stream.inbound.drop chunk.length }
    some (shared, { loop with
      evLoop := loop.evLoop.setEndpoint which server
      reading := some which })

/-- The pass that the loop of `c_read_from_provide_agents` makes next. -/
def nextPass (shared : Shared) (loop : WorkLoop) (which : Nat) (now : Int) :
    Pass ReplyLoop Reply :=
  cReadFromProvideAgentsPass which ⟨shared.lb, loop.evLoop, fun _ => now⟩

/-- One pass of the loop of `c_read_from_provide_agents`. -/
def replyPass (shared : Shared) (loop : WorkLoop) (now : Int) : Option (Shared × WorkLoop) :=
  match loop.reading with
  | none => none
  | some which =>
    match nextPass shared loop which now with
    | .ret => some (shared, { loop with reading := none })
    | .emit _ none => none
    | .emit _ (some s) =>
      let stream := loop.streams which
      let loop := loop.setStream which { stream with inTransit := stream.inTransit.tail }
      some ({ shared with lb := s.lb }, { loop with evLoop := s.evLoop })

/-- `c_read_from_provide_agents` is called at the end of the stream, and calls `uv_close`:
what is queued or on its way is lost. -/
def providerEnd (shared : Shared) (loop : WorkLoop) (which : Nat) : Option (Shared × WorkLoop) :=
  if loop.reading ≠ none ∨ (loop.streams which).connection ≠ .established then none
  else
    match cReadFromProvideAgents which ⟨shared.lb, loop.evLoop, fun _ => 0⟩ uvEof with
    | .close evLoop =>
      some (shared, { loop.setStream which ⟨.closing, [], [], []⟩ with evLoop := evLoop })
    | _ => none

/-- libuv calls `reconnection_to_agent` for the closed stream. -/
def reconnect (shared : Shared) (loop : WorkLoop) (which : Nat) : Option (Shared × WorkLoop) :=
  if loop.reading ≠ none ∨ (loop.streams which).connection ≠ .closing then none
  else some (shared, loop.setStream which
    (makeConnectionToAgent (loop.evLoop.server.endpointServers which) (loop.streams which)))

/-- libuv calls `c_after_connect_to_a_agent` with status 0. -/
def connected (shared : Shared) (loop : WorkLoop) (which : Nat) : Option (Shared × WorkLoop) :=
  let stream := loop.streams which
  if loop.reading ≠ none ∨ stream.connection ≠ .connecting ∨ shared.lb.numOfEnds ≤ which then none
  else
    let (evLoop, listen) := cAfterConnectToAAgent shared.lb.numOfEnds which loop.evLoop
    some (shared, { loop.setStream which { stream with connection := .established } with
      evLoop := evLoop
      listenCalls := loop.listenCalls + if listen then 1 else 0 })

/-- libuv calls `c_after_connect_to_a_agent` with an error, which drops what was queued. -/
def connectFailed (shared : Shared) (loop : WorkLoop) (which : Nat) :
    Option (Shared × WorkLoop) :=
  if loop.reading ≠ none ∨ (loop.streams which).connection ≠ .connecting then none
  else some (shared, loop.setStream which
    (makeConnectionToAgent (loop.evLoop.server.endpointServers which) (loop.streams which)))

/-- A step of one loop; `none` if the event cannot happen, or if the callback does not
return. -/
def step (env : Environment) (startTime : Int) (shared : Shared) (loop : WorkLoop) :
    Event → Option (Shared × WorkLoop)
  | .accept raw response contentLength tsReqBeg curTime =>
    loop.onNewConnection startTime shared raw response contentLength tsReqBeg curTime
  | .clientRead client chunk stale now => loop.clientRead env shared client chunk stale now
  | .clientEnd client nread => loop.clientEnd env shared client nread
  | .closed client => loop.closed shared client
  | .answer which reqId payload => loop.answer shared which reqId payload
  | .replyRead which chunk => loop.replyRead shared which chunk
  | .replyPass now => loop.replyPass shared now
  | .providerEnd which => loop.providerEnd shared which
  | .reconnect which => loop.reconnect shared which
  | .connected which => loop.connected shared which
  | .connectFailed which => loop.connectFailed shared which

end WorkLoop

/-- A step of the agent: something happens at one of its loops. -/
def World.step (env : Environment) (w : World) (e : Nat × Event) : Option World :=
  if e.1 < eventLoopNum then
    ((w.loops e.1).step env w.startTime w.shared e.2).map fun r =>
      { w with shared := r.1, loops := Function.update w.loops e.1 r.2 }
  else none

end MeshAgent.Model
