import MeshAgent.Foundations.TracedLoop
import MeshAgent.Model.FrameBuffer
import MeshAgent.Model.LoadBalancer

/-!
# `consumer_agent.c`: requests in, frames out, replies back

A request record and its client connection are allocated together and point to each
other, so a client's name stands for both; a slot of `http_req_dict` holds such a name.
Names are never used twice: a slot that keeps the name of a freed record dangles. `none`
as a result means that the code has touched memory it must not touch.
-/

namespace MeshAgent.Model
open MeshAgent.Foundations

def eventLoopNum : Nat := 2

def hashSlotNum : Nat := 8192

def defaultPackageSize : Nat := 4096

def defaultResponseSize : Nat := 4096

structure HttpReq where
  rawArray : Mem UInt8
  rawArraySize : Nat
  rawArrayMaxSize : Nat
  requestLength : Int
  contentLength : Int
  reqId : Int
  responsePackage : Mem UInt8
  tsReqBeg : Int

/-- `endpoint_server_t`; `conn_status` is 0 while connected. -/
structure EndpointServer where
  rawArray : Mem UInt8
  sizeOfRawArray : Nat
  rawArrayMaxLength : Nat
  connStatus : Int

/-- `tcp_server_t`. The counter starts at the number of its loop and grows by
`EVENT_LOOP_NUM`. -/
structure TcpServer where
  endpointConnectionCount : Int
  reqId : Nat
  endpointServers : Nat → EndpointServer
  httpReqDict : Nat → Option Nat

/-- A work event loop: its server and the records that its clients own. -/
structure EventLoop where
  server : TcpServer
  reqs : Nat → Option HttpReq

/-- `init_tcp_server_t`, after `start_work_event_loop` has allocated the endpoints. -/
def initTcpServer (tid : Nat) (raw : Nat → Mem UInt8) : TcpServer where
  endpointConnectionCount := 0
  reqId := tid
  endpointServers := fun i => ⟨raw i, 0, defaultResponseSize, -1⟩
  httpReqDict := fun _ => none

/-- `init_http_req_t`; what `malloc` leaves unset is `raw`, `contentLength` and so on. -/
def initHttpReq (size : Nat) (raw response : Mem UInt8) (contentLength tsReqBeg : Int) :
    HttpReq where
  rawArray := raw
  rawArraySize := 0
  rawArrayMaxSize := size
  requestLength := -1
  contentLength := contentLength
  reqId := -1
  responsePackage := response
  tsReqBeg := tsReqBeg

/-- The length that `alloc_buffer` offers, at `raw_array + raw_array_size`. -/
def allocBuffer (httpReq : HttpReq) : Nat := httpReq.rawArrayMaxSize - httpReq.rawArraySize

/-- The length that `alloc_buffer_to_agent` offers, at `raw_array + size_of_raw_array`. -/
def allocBufferToAgent (server : EndpointServer) : Nat :=
  server.rawArrayMaxLength - server.sizeOfRawArray

/-- libuv stores a chunk in the offered buffer. -/
def HttpReq.store (httpReq : HttpReq) (chunk : List UInt8) : HttpReq :=
  { httpReq with rawArray := httpReq.rawArray.write httpReq.rawArraySize chunk }

/-- libuv stores a chunk in the offered buffer. -/
def EndpointServer.store (server : EndpointServer) (chunk : List UInt8) : EndpointServer :=
  { server with rawArray := server.rawArray.write server.sizeOfRawArray chunk }

/-- What `phr_parse_request` returns: the length of the header block, `-1` on an error,
`-2` on an incomplete block; and where the value of the first header begins, if there is
one. -/
structure ParseResult where
  ret : Int
  value : Option Int

/-- What the agent is built and run with: the parser on the received bytes, and the
memory behind the limit tables. -/
structure Environment where
  phrParseRequest : List UInt8 → ParseResult
  limits : LimitTables

/-- The value of a run of decimal digits. -/
def digitsValue : List UInt8 → Nat → Nat
  | [], acc => acc
  | c :: s, acc => if 48 ≤ c ∧ c ≤ 57 then digitsValue s (acc * 10 + (c.toNat - 48)) else acc

/-- White space in the sense of `isspace`. -/
def isSpace (c : UInt8) : Bool := c = 32 || (9 ≤ c && c ≤ 13)

/-- `atoi`: `strtol`, which stops at the bounds of `long`, cut to an `int`. -/
def atoi (s : List UInt8) : Int :=
  let s := s.dropWhile isSpace
  let value : Int :=
    match s with
    | 45 :: t => -digitsValue t 0
    | 43 :: t => digitsValue t 0
    | t => digitsValue t 0
  signed 32 (max (-2 ^ 63) (min (2 ^ 63 - 1) value))

/-- The first part of `c_read_connection_data`: the header block is parsed unless its
length is known from an earlier call. The second result is `headers[0].value`, if this
call has set it. -/
def parseHeader (env : Environment) (httpReq : HttpReq) : HttpReq × Option Int :=
  if httpReq.requestLength < 0 then
    let result := env.phrParseRequest (httpReq.rawArray.read 0 httpReq.rawArraySize)
    ({ httpReq with requestLength := result.ret }, if 0 ≤ result.ret then result.value else none)
  else (httpReq, none)

/-- `atoi(headers[0].value)`; `stale` is what it yields on the unset local. -/
def headerContentLength (httpReq : HttpReq) (value : Option Int) (stale : Int) : Int :=
  match value with
  | some v => atoi (httpReq.rawArray.read v (httpReq.rawArrayMaxSize - v).toNat)
  | none => stale

/-- What is handed to `uv_write`: the endpoint, the id, the bytes; `content_length`, and
whether it came from the unset local. -/
structure Dispatch where
  endpoint : Nat
  reqId : Nat
  bytes : List UInt8
  contentLength : Int
  unset : Bool

/-- `send_to_provider_agent`: the slot of the id now holds the client, and the bytes are
handed to `uv_write`. -/
def sendToProviderAgent (server : TcpServer) (me : Nat) (httpReq : HttpReq) (reqId : Nat)
    (sendBuffer sendBuffLen : Int) : TcpServer × List UInt8 :=
  ({ server with
      httpReqDict := Function.update server.httpReqDict (reqId % hashSlotNum) (some me) },
    httpReq.rawArray.read sendBuffer (unsigned 32 sendBuffLen))

/-- How a call of `c_read_connection_data` ends. -/
inductive ClientRead
  | wait (httpReq : HttpReq)
  | dispatch (d : Dispatch) (lb : LoadBalancer) (server : TcpServer) (httpReq : HttpReq)
  | close

/-- The rest of `c_read_connection_data` once the request is complete. The 12-byte frame
header is stored in place over the end of the header block. -/
def dispatchRequest (env : Environment) (lb : LoadBalancer) (server : TcpServer) (me : Nat)
    (httpReq : HttpReq) (unset : Bool) (now : Int) : Option ClientRead :=
  let (lb, whichEndpoint) := lb.selectEndpointTimeBased env.limits
  let reqId := server.reqId
  let rawArrayStartOffset := httpReq.requestLength - 12
  -- the counter overflows, or the frame header begins in front of the buffer
  if 2 ^ 63 ≤ reqId + eventLoopNum ∨ rawArrayStartOffset < 0 then none
  else
    let server := { server with reqId := reqId + eventLoopNum }
    let raw := httpReq.rawArray.write rawArrayStartOffset (intToFourChar httpReq.contentLength)
    let raw := raw.write (rawArrayStartOffset + 4) (longTo8bytes reqId)
    let httpReq := { httpReq with reqId := reqId, tsReqBeg := now, rawArray := raw }
    let (server, bytes) := sendToProviderAgent server me httpReq reqId rawArrayStartOffset
      (addInt 12 httpReq.contentLength)
    some (.dispatch ⟨whichEndpoint, reqId, bytes, httpReq.contentLength, unset⟩ lb server
      { httpReq with rawArraySize := 0, requestLength := -1 })

/-- `c_read_connection_data` of the client `me`. -/
def cReadConnectionData (env : Environment) (lb : LoadBalancer) (server : TcpServer) (me : Nat)
    (httpReq : HttpReq) (nread stale now : Int) : Option ClientRead :=
  if 0 < nread then
    let httpReq := { httpReq with rawArraySize := httpReq.rawArraySize + nread.toNat }
    let (httpReq, value) := parseHeader env httpReq
    if httpReq.requestLength < 0 then some (.wait httpReq)
    else
      let contentLength := headerContentLength httpReq value stale
      let httpReq := { httpReq with contentLength := contentLength }
      if httpReq.rawArraySize < sizeTOfInt (addInt contentLength httpReq.requestLength) then
        some (.wait httpReq)
      else dispatchRequest env lb server me httpReq value.isNone now
  else if nread < 0 then some .close
  else some (.wait httpReq)

/-! ### Replies -/

/-- A handled reply frame, and the client that its payload is written to. -/
structure Reply where
  header : List UInt8
  payload : List UInt8
  reqId : Int
  client : Option Nat

/-- The body of the loop of `c_read_from_provide_agents` for a frame of endpoint `which`
with the id `reqId`, up to the point where the frame is taken off the buffer. -/
def handleReply (lb : LoadBalancer) (evLoop : EventLoop) (which : Nat) (reqId lengthBody now : Int)
    (payload : List UInt8) : Option (LoadBalancer × EventLoop) :=
  let slot := reqId.tmod hashSlotNum
  if slot < 0 then none
  else
    match evLoop.server.httpReqDict slot.toNat with
    | none => some (lb.addRemain which (-1), evLoop)
    | some client =>
      match evLoop.reqs client with
      | none => none
      | some httpConn =>
        if lengthBody < 0 ∨ (defaultPackageSize : Int) < lengthBody then none
        else
          let httpConn' := { httpConn with
            responsePackage := httpConn.responsePackage.write 0 payload }
          some (lb.finishEndpointTaskTimeBased which httpConn.tsReqBeg now,
            { evLoop with reqs := Function.update evLoop.reqs client (some httpConn') })

/-- The client, if any, that a handled frame with this id is written to. -/
def replyClient (evLoop : EventLoop) (reqId : Int) : Option Nat :=
  evLoop.server.httpReqDict (reqId.tmod hashSlotNum).toNat

/-- The endpoint record `which` replaced. -/
def EventLoop.setEndpoint (evLoop : EventLoop) (which : Nat) (server : EndpointServer) :
    EventLoop :=
  { evLoop with server := { evLoop.server with
      endpointServers := Function.update evLoop.server.endpointServers which server } }

/-- The state of the loop of `c_read_from_provide_agents`; `clock` are the readings of
`get_wall_time` to come. -/
structure ReplyLoop where
  lb : LoadBalancer
  evLoop : EventLoop
  clock : Nat → Int

/-- One pass of the loop of `c_read_from_provide_agents` of the endpoint `which`. -/
def cReadFromProvideAgentsPass (which : Nat) (s : ReplyLoop) : Pass ReplyLoop Reply :=
  let server := s.evLoop.server.endpointServers which
  match bufferedFrame 12 0 server.rawArray server.sizeOfRawArray with
  | none => .ret
  | some (lengthBody, lastLength) =>
    let reqId := bytes8ToLong server.rawArray 4
    let payload := server.rawArray.read 12 lengthBody.toNat
    let reply := ⟨server.rawArray.read 0 12, payload, reqId, replyClient s.evLoop reqId⟩
    let rest := takeOff server.rawArray server.sizeOfRawArray lastLength
    match handleReply s.lb s.evLoop which reqId lengthBody (s.clock 0) payload with
    | none => .emit reply none
    | some (lb, evLoop) =>
      let server := { server with rawArray := rest.1, sizeOfRawArray := rest.2 }
      .emit reply (some ⟨lb, evLoop.setEndpoint which server, fun k => s.clock (k + 1)⟩)

/-- How a call of `c_read_from_provide_agents` ends: the loop returns, or does not, or the
stream has ended and is closed, or any other error ends the process. -/
inductive ProviderRead
  | frames (replies : List Reply) (result : Option ReplyLoop)
  | close (evLoop : EventLoop)
  | exit

def uvEof : Int := -4095

/-- `c_read_from_provide_agents` of the endpoint `which`. -/
def cReadFromProvideAgents (which : Nat) (s : ReplyLoop) (nread : Int) : ProviderRead :=
  let server := s.evLoop.server.endpointServers which
  if 0 < nread then
    let server := { server with sizeOfRawArray := server.sizeOfRawArray + nread.toNat }
    let result := tracedLoop (cReadFromProvideAgentsPass which) (server.sizeOfRawArray + 1)
      { s with evLoop := s.evLoop.setEndpoint which server }
    .frames result.1 result.2
  else if nread < 0 then
    if nread ≠ uvEof then .exit
    else .close (s.evLoop.setEndpoint which { server with connStatus := -1 })
  else .frames [] (some s)

/-- libuv stores a chunk in the offered buffer and calls `c_read_from_provide_agents`. -/
def ReplyLoop.read (which : Nat) (s : ReplyLoop) (chunk : List UInt8) :
    List Reply × Option ReplyLoop :=
  let server := s.evLoop.server.endpointServers which
  let stored := { s with evLoop := s.evLoop.setEndpoint which (server.store chunk) }
  match cReadFromProvideAgents which stored chunk.length with
  | .frames replies result => (replies, result)
  | .close evLoop => ([], some { s with evLoop := evLoop })
  | .exit => ([], none)

end MeshAgent.Model
