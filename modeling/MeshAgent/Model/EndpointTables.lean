import MeshAgent.Foundations.Runs
import MeshAgent.Model.ConsumerAgent
import MeshAgent.Model.LoadBalancer

/-!
# The tables with one entry for each endpoint

`etcd.c`, `consumer_agent.c` and `loadBalancer.c` fill and read them by index. The functions
here list the entries that the functions of the source touch; what the entries hold does not
matter for that, apart from the costs of the endpoints.
-/

namespace MeshAgent.Model
open MeshAgent.Foundations

inductive Table
  | rawServerString
  | endpointServerAddrStr
  | endpointServerPort
  | endpointServerScale
  | endpointSockaddr
  | endpointServers
  | historyDiffTimeLst
  | directSendLimit
  | penaltySendLimit
  deriving DecidableEq

def maximumEndpointServers : Nat := 16

/-- The number of entries that are declared or allocated. -/
def Table.size : Table → Nat
  | .rawServerString => maximumEndpointServers
  | .endpointServerAddrStr => maximumEndpointServers
  | .endpointServerPort => maximumEndpointServers
  | .endpointServerScale => maximumEndpointServers
  | .endpointSockaddr => maximumEndpointServers
  | .endpointServers => 16
  | .historyDiffTimeLst => 16
  | .directSendLimit => 3
  | .penaltySendLimit => 3

inductive Access
  | load (table : Table) (index : Nat)
  | store (table : Table) (index : Nat)
  deriving DecidableEq

def Access.table : Access → Table
  | .load table _ => table
  | .store table _ => table

def Access.index : Access → Nat
  | .load _ index => index
  | .store _ index => index

def Access.InRange (a : Access) : Prop := a.index < a.table.size

/-! ### `etcd.c` -/

/-- `jsmntype_t`. -/
inductive JsmnType
  | undefined
  | object
  | array
  | string
  | primitive
  deriving DecidableEq

/-- `jsmntok_t`; `stop` is its `end`. -/
structure JsmnTok where
  type : JsmnType
  start : Int
  stop : Int

/-- What `curl_easy_perform` returns, the body of the reply and the tokens that `jsmn_parse`
finds in it. -/
structure RangeReply where
  ret : Int
  ptr : Mem UInt8
  toks : List JsmnTok

def jsoneq (json : Mem UInt8) (tok : JsmnTok) (s : List UInt8) : Int :=
  if tok.type = .string ∧ (s.length : Int) = tok.stop - tok.start ∧
    json.read tok.start s.length = s then 0 else -1

def keyName : List UInt8 := ascii ['k', 'e', 'y']

/-- The loop of `etcd_get`, with the number of strings it stores; `skip` when the token is the
value of a key. -/
def etcdGetLoop (ptr : Mem UInt8) (skip : Bool) (size : Nat) : List JsmnTok → List Access × Nat
  | [] => ([], size)
  | tok :: toks =>
    if skip then etcdGetLoop ptr false size toks
    else if tok.stop - tok.start = 3 ∧ jsoneq ptr tok keyName = 0 then
      let rest := etcdGetLoop ptr true (size + 1) toks
      (.store .rawServerString size :: rest.1, rest.2)
    else etcdGetLoop ptr false size toks

/-- `etcd_get` with `*results_size`. -/
def etcdGet (reply : RangeReply) : List Access × Nat :=
  if reply.ret = 0 then etcdGetLoop reply.ptr false 0 reply.toks else ([], 0)

/-! ### `consumer_agent.c` -/

/-- The loop body of `init_consumer`. -/
def initConsumerBody (i : Nat) : List Access :=
  [.load .rawServerString i, .store .endpointServerAddrStr i, .load .rawServerString i,
    .load .endpointServerAddrStr i, .store .endpointServerPort i, .store .endpointServerScale i,
    .load .endpointServerAddrStr i, .load .endpointServerPort i, .load .endpointServerScale i,
    .load .endpointServerAddrStr i, .load .endpointServerPort i, .store .endpointSockaddr i]

/-- `init_load_balancer`. -/
def initLoadBalancerAccesses (numOfEnds : Nat) : List Access :=
  (List.range numOfEnds).map (.store .historyDiffTimeLst)

/-- `init_consumer`, with `num_endpoint_servers` unless it exits. -/
def initConsumer (reply : RangeReply) : List Access × Option Nat :=
  let found := etcdGet reply
  if reply.ret ≠ 0 then (found.1, none)
  else if found.2 = 0 then (found.1, none)
  else (found.1 ++ (List.range found.2).flatMap initConsumerBody ++
    initLoadBalancerAccesses found.2, some found.2)

/-- `make_connection_to_agent_`; `which` of a server is its index. -/
def makeConnectionAccesses (whichEndpoint : Nat) : List Access :=
  [.load .endpointServers whichEndpoint, .load .endpointSockaddr whichEndpoint]

/-- `start_work_event_loop` up to `uv_run`. -/
def startWorkEventLoopAccesses (numEndpointServers : Nat) : List Access :=
  (List.range numEndpointServers).map (.store .endpointServers) ++
    (List.range numEndpointServers).flatMap makeConnectionAccesses

/-- `init_consumer` and the start of every event loop. -/
def consumerStart (reply : RangeReply) : List Access :=
  (initConsumer reply).1 ++ (initConsumer reply).2.elim [] fun numEndpointServers =>
    (List.replicate eventLoopNum (startWorkEventLoopAccesses numEndpointServers)).flatten

/-! ### `loadBalancer.c` -/

namespace LoadBalancer

def estimateCostAccesses (t : LimitTables) (lb : LoadBalancer) (index : Nat) : List Access :=
  let history := lb.historyDiffTimeLst index
  [.load .historyDiffTimeLst index, .load .penaltySendLimit index] ++
    if t.penaltySendLimit index ≤ history.remain then [] else [.load .directSendLimit index]

/-- `select_endpoint_time_based`. -/
def selectAccesses (t : LimitTables) (lb : LoadBalancer) : List Access :=
  let last := lb.numOfEnds - 1
  lb.estimateCostAccesses t last ++
    (List.range last).reverse.flatMap (lb.estimateCostAccesses t) ++
    [.load .historyDiffTimeLst (lb.selectIndex t)]

/-- `finish_endpoint_task_time_based`. -/
def finishAccesses (endPointIdx : Nat) : List Access :=
  [.load .historyDiffTimeLst endPointIdx, .load .historyDiffTimeLst endPointIdx]

end LoadBalancer

/-- The entries that an event touches; `send_to_provider_agent` takes the connection to the
selected endpoint. -/
def eventAccesses (t : LimitTables) (lb : LoadBalancer) : BalancerEvent → List Access
  | .select => lb.selectAccesses t ++ [.load .endpointServers (lb.selectIndex t)]
  | .finish endPointIdx _ _ => LoadBalancer.finishAccesses endPointIdx

/-- A step in which the answer, if there is one, comes from one of the endpoints:
`end_point_idx` is the `which` of a connection. -/
def EndpointStep (t : LimitTables) (lb : LoadBalancer) (e : BalancerEvent) (lb' : LoadBalancer) :
    Prop :=
  BalancerStep t lb e lb' ∧
    ∀ endPointIdx tsReqBeg now, e = .finish endPointIdx tsReqBeg now → endPointIdx < lb.numOfEnds

end MeshAgent.Model
