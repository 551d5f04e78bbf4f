import MeshAgent.Foundations.CString
import MeshAgent.Model.ConsumerAgent

/-!
# The key under which a provider is registered

The provider agent formats it in `on_resolved`; the consumer agent takes it apart in
`init_consumer`, with `str_to_server_uri` of `utils.c`.
-/

namespace MeshAgent.Model
open MeshAgent.Foundations

/-- The fixed part of the format of `on_resolved`. -/
def servicePath : List UInt8 :=
  ascii ['/', 'd', 'u', 'b', 'b', 'o', 'm', 'e', 's', 'h', '/', 'c', 'o', 'm', '.', 'a', 'l', 'i',
    'b', 'a', 'b', 'a', '.', 'd', 'u', 'b', 'b', 'o', '.', 'p', 'e', 'r', 'f', 'o', 'r', 'm', 'a',
    'n', 'c', 'e', '.', 'd', 'e', 'm', 'o', '.', 'p', 'r', 'o', 'v', 'i', 'd', 'e', 'r', '.', 'I',
    'H', 'e', 'l', 'l', 'o', 'S', 'e', 'r', 'v', 'i', 'c', 'e', '/']

/-- The string in `buff` of `on_resolved`: the path, then `%c:%s:%d`. -/
def registrationKey (providerScale : UInt8) (addr : List UInt8) (serverPort : Int) : List UInt8 :=
  servicePath ++ (providerScale :: 58 :: (addr ++ 58 :: formatInt serverPort))

/-- The capacity that `init_consumer` gives to each `endpoint_server_addr_str[i]`. -/
def serverAddrSize : Nat := 256

structure ServerUri where
  serverAddr : List UInt8
  port : Int
  scale : Int
deriving DecidableEq

/-- The loop over the segments: the last token that `strtok` returned. -/
def lastSegment : Nat → Option Nat → Option Nat → StrtokState → Option (Option Nat × StrtokState)
  | _, none, serverUri, s => some (serverUri, s)
  | 0, some _, _, _ => none
  | fuel + 1, some pch, _, s =>
    let (next, s) := strtok 47 none s
    lastSegment fuel next (some pch) s

/-- The scale of the first character; any other one ends the program. -/
def scaleOf (c : UInt8) : Option Int :=
  if c = 48 then some 0
  else if c = 49 then some 1
  else if c = 50 then some 2
  else none

/-- `str_to_server_uri` on the array `str`. There is no result when a missing token would be
dereferenced, when the program exits, or when the address overflows `server_addr`. -/
def strToServerUri (str : List UInt8) : Option ServerUri := do
  let (pch, s) := strtok 47 (some 1) ⟨str, 0⟩
  let (serverUri, s) ← lastSegment str.length pch none s
  let (pch, s) := strtok 58 serverUri s
  let scale ← scaleOf (s.buf.getD (← pch) 0)
  let (pch, s) := strtok 58 none s
  let serverAddr := cString s.buf (← pch)
  if serverAddrSize ≤ serverAddr.length then none
  else
    let (pch, s) := strtok 58 none s
    some { serverAddr, port := atoi (s.buf.drop (← pch)), scale }

end MeshAgent.Model
