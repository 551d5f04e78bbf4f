import MeshAgent.Foundations.LengthPrefix
import MeshAgent.Model.ProviderAgent
import MeshAgent.Model.WriteQueue

/-!
# The mesh: the consumer agent, the provider agents and Dubbo

Each connection of an event loop ends at a relay of a provider agent, which has a connection
of its own to Dubbo. A step is a callback of one of the agents, or Dubbo reads a package or
answers one. All streams deliver their bytes in order and in any pieces. A connection may end
at any time, and takes with it what is on its way. A relay hands fresh blocks to `uv_write`,
which the callback of the write frees.
-/

namespace MeshAgent.Model
open MeshAgent.Foundations

/-- The other end of a connection to a provider agent. `requests` has been transmitted to it,
`packages` has been handed to `uv_write` by the relay, and `results` has been sent by Dubbo, and
they have not been read; the relay is there once it reads. Dubbo has yet to answer what it has
`received`. -/
structure Link where
  requests : List UInt8
  relay : Option TcpRelay
  packages : List UInt8
  received : List (List UInt8)
  results : List UInt8

/-- The 8 id bytes of a frame, as a number. -/
def carriedId (f : List UInt8) : Nat := leValue ((f.drop 4).take 8)

/-- What a callback of a relay hands to `uv_write`. -/
def RelayEvent.written? : RelayEvent → Option (List UInt8)
  | .frame _ _ written => written
  | .closeConn1 => none

/-- The packages that Dubbo can read have a 16-byte header with the length at 12. -/
def packageCode : FrameCode UInt8 := lengthCode 16 12 le_rfl (fun _ => True)

/-- A response of Dubbo with status 20 echoes the 8 id bytes of the package; its body is the
result between the line of its type and a newline. -/
def dubboResponse (package result : List UInt8) : List UInt8 :=
  [0xda, 0xbb, 0x06, 20] ++ ((package.drop 4).take 8 ++
    (intToFourChar (result.length + 3 : Nat) ++ ([49, 10] ++ (result ++ [10]))))

namespace Link

/-- Nothing is on its way, and nobody has accepted the connection. -/
def empty : Link := ⟨[], none, [], [], []⟩

/-- `p_on_new_connection`, and then `p_on_duboo_connect` with status 0: the relay begins to
read. -/
def relayStarts (link : Link) (raw1 raw2 : Mem UInt8) : Option Link :=
  match link.relay with
  | some _ => none
  | none => some { link with relay := some (initTcpRelay pDefaultPackageSize raw1 raw2) }

/-- A chunk of the consumer agent is stored, and `p_read_connection_data_http_req` writes to
Dubbo. -/
def relayReads1 (b : Build) (link : Link) (chunk : List UInt8) (dubboPackage : Mem UInt8) :
    Option Link :=
  match link.relay with
  | none => none
  | some relay =>
    if chunk = [] ∨ pAllocBuffer1 relay < chunk.length ∨ ¬ chunk <+: link.requests then none
    else
      match relay.read1 b dubboPackage chunk with
      | (_, none) => none
      | (events, some relay) =>
        some { link with
          requests := link.requests.drop chunk.length
          relay := some relay
          packages := link.packages ++ (events.filterMap RelayEvent.written?).flatten }

/-- Dubbo reads a package once all of it has arrived. -/
def dubboReads (link : Link) : Option Link :=
  match packageCode.next link.packages with
  | none => none
  | some n =>
    some { link with
      packages := link.packages.drop n
      received := link.received ++ [link.packages.take n] }

/-- Dubbo answers one of the packages that it has received, in any order. -/
def dubboAnswers (link : Link) (i : Nat) (result : List UInt8) : Option (Link × List UInt8) :=
  match link.received[i]? with
  | none => none
  | some package =>
    some ({ link with
      received := link.received.eraseIdx i
      results := link.results ++ dubboResponse package result }, package)

/-- A chunk of Dubbo is stored, and `p_on_read_results` writes replies to the consumer agent. -/
def relayReads2 (link : Link) (chunk : List UInt8) (responseAll : Mem UInt8) :
    Option (Link × List (List UInt8)) :=
  match link.relay with
  | none => none
  | some relay =>
    if chunk = [] ∨ pAllocBuffer2 relay < chunk.length ∨ ¬ chunk <+: link.results then none
    else
      match relay.read2 responseAll chunk with
      | (_, none) => none
      | (events, some relay) =>
        some ({ link with relay := some relay, results := link.results.drop chunk.length },
          events.filterMap RelayEvent.written?)

end Link

/-- A reply joins the unread bytes of the connection; its id is noted. -/
def ProviderStream.deliver (stream : ProviderStream) (reply : List UInt8) : ProviderStream :=
  { stream with
    pending := stream.pending.erase (carriedId reply)
    inTransit := stream.inTransit ++ [carriedId reply]
    inbound := stream.inbound ++ reply }

/-- The streams that an event loop writes to. -/
inductive SendStream
  | provider (endpoint : Nat)
  | client (client : Nat)
deriving DecidableEq

def UvWrite.stream (q : UvWrite) : SendStream :=
  match q.buffer with
  | .rawArray endpoint _ _ => .provider endpoint
  | .responsePackage => .client q.client

/-- What lies beyond an event loop: the links of its connections, and what its clients and
Dubbo could write down. `request` is what has been received of a client for an id, `asked` are
the ids of all requests of a client and `got` the bytes that have been transmitted to it, piece
by piece; `executed` are the packages that Dubbo has answered, with the results. -/
structure Outside where
  links : Nat → Link
  request : Nat → List UInt8
  asked : Nat → List Nat
  got : Nat → List (List UInt8)
  executed : List (List UInt8 × List UInt8)

def startOutside : Outside where
  links := fun _ => .empty
  request := fun _ => []
  asked := fun _ => []
  got := fun _ => []
  executed := []

/-- The dispatch that a callback makes, and the client whose request it is. -/
def dispatched (env : Environment) (shared : Shared) (loop : WorkLoop) :
    Event → Option (Nat × Dispatch)
  | .clientRead client chunk stale now =>
    match loop.evLoop.reqs client with
    | none => none
    | some httpReq =>
      match cReadConnectionData env shared.lb loop.evLoop.server client (httpReq.store chunk)
          chunk.length stale now with
      | some (.dispatch d _ _ _) => some (client, d)
      | _ => none
  | _ => none

/-- What has been received of a client for its current request, with the chunk of the event. -/
def receivedBytes (loop : WorkLoop) : Event → List UInt8
  | .clientRead client chunk _ _ =>
    match loop.evLoop.reqs client with
    | none => chunk
    | some httpReq => httpReq.rawArray.read 0 httpReq.rawArraySize ++ chunk
  | _ => []

namespace Outside

def setLink (o : Outside) (which : Nat) (link : Link) : Outside :=
  { o with links := Function.update o.links which link }

/-- A client has asked, and its request has got an id. -/
def ask (o : Outside) (received : List UInt8) (client reqId : Nat) : Outside :=
  { o with
    request := Function.update o.request reqId received
    asked := Function.update o.asked client (o.asked client ++ [reqId]) }

/-- The request that a callback dispatches, also if its stream refuses the write. -/
def noteRequest (env : Environment) (shared : Shared) (loop : WorkLoop) (o : Outside) (e : Event) :
    Outside :=
  match dispatched env shared loop e with
  | none => o
  | some (client, d) => o.ask (receivedBytes loop e) client d.reqId

/-- A stream has transmitted bytes. -/
def receive (o : Outside) (bytes : List UInt8) : SendStream → Outside
  | .provider endpoint =>
    let link := o.links endpoint
    o.setLink endpoint { link with requests := link.requests ++ bytes }
  | .client client => { o with got := Function.update o.got client (o.got client ++ [bytes]) }

/-- The other end of a connection that ends, or cannot be made, is given up. -/
def dropLink (o : Outside) : Event → Outside
  | .providerEnd which | .connectFailed which => o.setLink which .empty
  | _ => o

end Outside

/-- What happens in the mesh. The answers of the provider agents are events of the relays and
of Dubbo here. -/
inductive MeshEvent
  | agent (e : Event)
  | relayStarts (which : Nat) (raw1 raw2 : Mem UInt8)
  | relayReads1 (which : Nat) (chunk : List UInt8) (dubboPackage : Mem UInt8)
  | dubboReads (which : Nat)
  | dubboAnswers (which i : Nat) (result : List UInt8)
  | relayReads2 (which : Nat) (chunk : List UInt8) (responseAll : Mem UInt8)

/-- An event loop and what lies beyond it. -/
structure MeshLoop where
  loop : WorkLoop
  outside : Outside

/-- A step of a relay or of Dubbo. Such a step changes nothing that the event loops share. -/
def MeshLoop.beyond (b : Build) (shared : Shared) (m : MeshLoop) :
    MeshEvent → Option (Shared × MeshLoop)
  | .agent _ => none
  | .relayStarts which raw1 raw2 =>
    if (m.loop.streams which).connection ≠ .established then none
    else ((m.outside.links which).relayStarts raw1 raw2).map fun link =>
      (shared, { m with outside := m.outside.setLink which link })
  | .relayReads1 which chunk dubboPackage =>
    ((m.outside.links which).relayReads1 b chunk dubboPackage).map fun link =>
      (shared, { m with outside := m.outside.setLink which link })
  | .dubboReads which =>
    ((m.outside.links which).dubboReads).map fun link =>
      (shared, { m with outside := m.outside.setLink which link })
  | .dubboAnswers which i result =>
    ((m.outside.links which).dubboAnswers i result).map fun r =>
      (shared, { m with outside := { m.outside.setLink which r.1 with
        executed := m.outside.executed ++ [(r.2, result)] } })
  | .relayReads2 which chunk responseAll =>
    ((m.outside.links which).relayReads2 chunk responseAll).map fun r =>
      (shared,
        { loop := m.loop.setStream which
            (r.2.foldl ProviderStream.deliver (m.loop.streams which))
          outside := m.outside.setLink which r.1 })

end MeshAgent.Model
