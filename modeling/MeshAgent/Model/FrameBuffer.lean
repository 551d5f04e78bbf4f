import MeshAgent.Model.Utils

/-!
# What the three reassembly loops share

Both agents keep received bytes in a buffer, test whether its first frame is complete, and
move the rest to the front once the frame is handled.
-/

namespace MeshAgent.Model
open MeshAgent.Foundations

/-- An `int` compared with a `size_t`, or added to one. -/
def sizeTOfInt (x : Int) : Nat := unsigned 64 x

/-- The sum of two `int`s. -/
def addInt (x y : Int) : Int := signed 32 (x + y)

/-- The two tests that open a pass: `header` bytes are buffered, and so is the frame whose
length field lies at `lengthAt`. The results are `length` and `last_length`. -/
def bufferedFrame (header lengthAt : Nat) (raw : Mem UInt8) (size : Nat) : Option (Int × Int) :=
  if size < header then none
  else
    let length := fourCharToInt raw lengthAt
    let lastLength := addInt header length
    if size < sizeTOfInt lastLength then none else some (length, lastLength)

/-- The two statements that end a pass: `last_length` is taken off the size, and the rest
is moved to the front. -/
def takeOff (raw : Mem UInt8) (size : Nat) (lastLength : Int) : Mem UInt8 × Nat :=
  let rest := size - sizeTOfInt lastLength
  (raw.move 0 lastLength rest, rest)

end MeshAgent.Model
