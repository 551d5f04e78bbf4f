import Mathlib.Logic.Function.Basic

/-!
# `blockQueue.c`: a bounded queue of requests

The calls of any number of threads, in the order in which they hold the mutex. A pull that
finds the queue empty waits and has no effect. `none` as a result means that an index is
outside the allocated array.
-/

namespace MeshAgent.Model

variable {α : Type*}

/-- `blockQueue`; an element is a pointer to a request. -/
structure BlockQueue (α : Type*) where
  head : Nat
  tail : Nat
  maxSize : Nat
  tailAhead : Int
  httpReqArray : Nat → α

/-- `init_blockQueue`; the fresh array holds unknown pointers. -/
def initBlockQueue (size : Nat) (fresh : Nat → α) : BlockQueue α where
  head := 0
  tail := 0
  maxSize := size
  tailAhead := 0
  httpReqArray := fresh

namespace BlockQueue

def testFull (bq : BlockQueue α) : Bool := bq.head = bq.tail ∧ bq.tailAhead = 1

def testEmpty (bq : BlockQueue α) : Bool := bq.head = bq.tail ∧ bq.tailAhead = 0

/-- `bq_push`: 1 if full, 0 if success. -/
def bqPush (bq : BlockQueue α) (httpReq : α) : Option (Int × BlockQueue α) :=
  if bq.testFull then some (1, bq)
  else if bq.maxSize ≤ bq.tail then none
  else
    let array := Function.update bq.httpReqArray bq.tail httpReq
    let tail := bq.tail + 1
    if tail = bq.maxSize then
      some (0, { bq with httpReqArray := array, tail := 0, tailAhead := 1 })
    else some (0, { bq with httpReqArray := array, tail := tail })

/-- How far `bq_pull` gets: it waits on the condition variable, or it returns a request. -/
inductive Pull (α : Type*)
  | blocked
  | pulled (req : α) (bq : BlockQueue α)

def bqPull (bq : BlockQueue α) : Option (Pull α) :=
  if bq.testEmpty then some .blocked
  else if bq.maxSize ≤ bq.head then none
  else
    let req := bq.httpReqArray bq.head
    let head := bq.head + 1
    if head = bq.maxSize then some (.pulled req { bq with head := 0, tailAhead := 0 })
    else some (.pulled req { bq with head := head })

/-- A call that has returned. -/
inductive Call (α : Type*)
  | push (httpReq : α) (result : Int)
  | pull (req : α)

inductive Step : BlockQueue α → Call α → BlockQueue α → Prop
  | push {bq bq' : BlockQueue α} {httpReq : α} {result : Int}
      (returned : bq.bqPush httpReq = some (result, bq')) : Step bq (.push httpReq result) bq'
  | pull {bq bq' : BlockQueue α} {req : α}
      (returned : bq.bqPull = some (.pulled req bq')) : Step bq (.pull req) bq'

end BlockQueue

end MeshAgent.Model
