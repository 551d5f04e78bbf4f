import MeshAgent.Foundations.Monitor
import MeshAgent.Model.BlockQueue

/-!
# `blockQueue.c`, statement by statement

Any number of threads call `bq_push` and `bq_pull`; between two statements of one thread the
others may execute theirs.
-/

namespace MeshAgent.Model
open MeshAgent.Foundations

variable {α : Type*}

/-- Where a thread is in `bq_push` or `bq_pull`, and the values of its local variables. -/
inductive BqPoint (α : Type*)
  | idle
  | pushLock (httpReq : α)
  | pushTestFull (httpReq : α)
  | pushUnlockFull (httpReq : α)
  | pushStore (httpReq : α)
  | pushAdvance (httpReq : α)
  | pushTestMax (httpReq : α)
  | pushResetTail (httpReq : α)
  | pushSetAhead (httpReq : α)
  | pushUnlock (httpReq : α)
  | pushSignal (httpReq : α)
  | pushReturn (httpReq : α) (result : Int)
  | pullLock
  | pullTestEmpty
  | pullWait
  | pullAsleep
  | pullWoken
  | pullLoad
  | pullAdvance (req : α)
  | pullTestMax (req : α)
  | pullResetHead (req : α)
  | pullClearAhead (req : α)
  | pullUnlock (req : α)
  | pullReturn (req : α)

/-- The statements of `bq_push` and `bq_pull`. An access outside the array has no result. -/
def bqProgram : BqPoint α → Stmt (BlockQueue α) (BqPoint α)
  | .idle => .idle
  | .pushLock httpReq => .lock (.pushTestFull httpReq)
  | .pushTestFull httpReq => .update fun bq =>
    some (if bq.testFull then .pushUnlockFull httpReq else .pushStore httpReq, bq)
  | .pushUnlockFull httpReq => .unlock (.pushReturn httpReq 1)
  | .pushStore httpReq => .update fun bq =>
    if bq.maxSize ≤ bq.tail then none
    else some (.pushAdvance httpReq,
      { bq with httpReqArray := Function.update bq.httpReqArray bq.tail httpReq })
  | .pushAdvance httpReq => .update fun bq =>
    some (.pushTestMax httpReq, { bq with tail := bq.tail + 1 })
  | .pushTestMax httpReq => .update fun bq =>
    some (if bq.tail = bq.maxSize then .pushResetTail httpReq else .pushUnlock httpReq, bq)
  | .pushResetTail httpReq => .update fun bq => some (.pushSetAhead httpReq, { bq with tail := 0 })
  | .pushSetAhead httpReq => .update fun bq =>
    some (.pushUnlock httpReq, { bq with tailAhead := 1 })
  | .pushUnlock httpReq => .unlock (.pushSignal httpReq)
  | .pushSignal httpReq => .signal (.pushReturn httpReq 0)
  | .pushReturn _ _ => .reads fun _ => .idle
  | .pullLock => .lock .pullTestEmpty
  | .pullTestEmpty => .update fun bq => some (if bq.testEmpty then .pullWait else .pullLoad, bq)
  | .pullWait => .wait .pullAsleep
  | .pullAsleep => .asleep .pullWoken
  -- `uv_cond_wait` returns with the mutex, and the `while` tests again
  | .pullWoken => .lock .pullTestEmpty
  | .pullLoad => .update fun bq =>
    if bq.maxSize ≤ bq.head then none else some (.pullAdvance (bq.httpReqArray bq.head), bq)
  | .pullAdvance req => .update fun bq => some (.pullTestMax req, { bq with head := bq.head + 1 })
  | .pullTestMax req => .update fun bq =>
    some (if bq.head = bq.maxSize then .pullResetHead req else .pullUnlock req, bq)
  | .pullResetHead req => .update fun bq => some (.pullClearAhead req, { bq with head := 0 })
  | .pullClearAhead req => .update fun bq => some (.pullUnlock req, { bq with tailAhead := 0 })
  | .pullUnlock req => .unlock (.pullReturn req)
  | .pullReturn _ => .reads fun _ => .idle

/-- The first points of the two functions. -/
def BqEntry (point : BqPoint α) : Prop :=
  (∃ httpReq, point = .pushLock httpReq) ∨ point = .pullLock

/-- One step of one of the threads. -/
def BqStep {τ : Type*} [DecidableEq τ] :
    Threads τ (BlockQueue α) (BqPoint α) → ThreadEvent τ (BqPoint α) →
      Threads τ (BlockQueue α) (BqPoint α) → Prop :=
  ThreadStep bqProgram BqEntry

/-- `init_blockQueue`, before the threads use the queue. -/
def bqThreads (τ : Type*) (size : Nat) (fresh : Nat → α) : Threads τ (BlockQueue α) (BqPoint α) :=
  startThreads (initBlockQueue size fresh) .idle

end MeshAgent.Model
