import MeshAgent.Foundations.MachineInt
import MeshAgent.Foundations.Monitor

/-!
# `atomic_integer.h`: a counter between threads

`atomic_add`, statement by statement; a sum that leaves `int` wraps.
-/

namespace MeshAgent.Model
open MeshAgent.Foundations

/-- `atomic_int_t` without its mutex. -/
structure AtomicInt where
  value : Int

/-- `init_atomic_integer`. -/
def initAtomicInteger (initValue : Int) : AtomicInt := ⟨initValue⟩

/-- Where a thread is in `atomic_add`, and the values of its local variables. -/
inductive AddPoint
  | idle
  | read (delta : Int)
  | lock (delta ret : Int)
  | store (delta ret : Int)
  | load (delta ret : Int)
  | unlock (delta ret : Int)
  | returns (delta ret : Int)

/-- The statements of `atomic_add`; the first one reads the value without the mutex. -/
def addProgram : AddPoint → Stmt AtomicInt AddPoint
  | .idle => .idle
  | .read delta => .reads fun atom => .lock delta atom.value
  | .lock delta ret => .lock (.store delta ret)
  | .store delta ret => .update fun atom =>
    some (.load delta ret, { atom with value := signed 32 (atom.value + delta) })
  | .load delta _ => .update fun atom => some (.unlock delta atom.value, atom)
  | .unlock delta ret => .unlock (.returns delta ret)
  | .returns _ _ => .reads fun _ => .idle

def AddEntry (point : AddPoint) : Prop := ∃ delta, point = .read delta

/-- One step of one of the threads. -/
def AddStep {τ : Type*} [DecidableEq τ] :
    Threads τ AtomicInt AddPoint → ThreadEvent τ AddPoint → Threads τ AtomicInt AddPoint → Prop :=
  ThreadStep addProgram AddEntry

end MeshAgent.Model
