import Mathlib.Logic.Function.Basic

/-!
# `http_req_queue.c`: a queue of requests in a ring

`generation` tells whether the tail has gone round once more often than the head. `none` as
a result means that an index is outside the allocated array.
-/

namespace MeshAgent.Model

variable {α : Type*}

/-- `http_req_queue_t`; an element is a pointer to a request. `allocated` is the number of
elements of the block behind `buffer`. -/
structure HttpReqQueue (α : Type*) where
  buffer : Nat → α
  allocated : Nat
  capacity : Nat
  head : Nat
  tail : Nat
  generation : Nat

/-- `init_http_req_queue_t`; the fresh array holds unknown pointers. -/
def initHttpReqQueueT (defaultSize : Nat) (fresh : Nat → α) : HttpReqQueue α where
  buffer := fresh
  allocated := defaultSize
  head := 0
  tail := 0
  capacity := defaultSize
  generation := 0

namespace HttpReqQueue

def httpReqQueueTestEmpty (queue : HttpReqQueue α) : Bool :=
  queue.generation = 0 ∧ queue.head = queue.tail

def httpReqQueueTestFull (queue : HttpReqQueue α) : Bool :=
  queue.generation = 1 ∧ queue.head = queue.tail

/-- `http_req_queue_push`: 1 if full, 0 if success. -/
def httpReqQueuePush (queue : HttpReqQueue α) (httpReq : α) : Option (Int × HttpReqQueue α) :=
  if queue.httpReqQueueTestFull then some (1, queue)
  else if queue.allocated ≤ queue.tail then none
  else
    let buffer := Function.update queue.buffer queue.tail httpReq
    let tail := queue.tail + 1
    if tail > queue.capacity then
      some (0, { queue with buffer := buffer, tail := 0, generation := 1 })
    else some (0, { queue with buffer := buffer, tail := tail })

/-- `http_req_queue_pull`; the inner `none` is `NULL`. -/
def httpReqQueuePull (queue : HttpReqQueue α) : Option (Option α × HttpReqQueue α) :=
  if queue.httpReqQueueTestEmpty then some (none, queue)
  else if queue.allocated ≤ queue.head then none
  else
    let req := queue.buffer queue.head
    let head := queue.head + 1
    if head > queue.capacity then some (some req, { queue with head := 0, generation := 0 })
    else some (some req, { queue with head := head })

inductive Call (α : Type*)
  | push (httpReq : α)
  | pull
  deriving DecidableEq

/-- What a call returns. -/
inductive Returned (α : Type*)
  | pushed (result : Int)
  | pulled (req : Option α)
  deriving DecidableEq

def call (queue : HttpReqQueue α) : Call α → Option (Returned α × HttpReqQueue α)
  | .push httpReq => (queue.httpReqQueuePush httpReq).map fun r => (.pushed r.1, r.2)
  | .pull => queue.httpReqQueuePull.map fun r => (.pulled r.1, r.2)

/-- What a sequence of calls returns; `none` when one of them leaves the array. -/
def returns (queue : HttpReqQueue α) : List (Call α) → Option (List (Returned α))
  | [] => some []
  | c :: calls => (queue.call c).bind fun r => (r.2.returns calls).map (r.1 :: ·)

end HttpReqQueue

end MeshAgent.Model
