import MeshAgent.Model.Utils

/-!
# `tokenizer.c`: from a form body to a Dubbo package

`str` and `res` are byte memories; `str` is given with the offset its pointer points to.
The array `off` is written from the front only, so it is a list and `next` is its length.
Loops carry fuel: `none` means that the C loop does not end.
-/

namespace MeshAgent.Model
open MeshAgent.Foundations

/-- The compile-time paths: `__BMI__`, `__SSE4_2__`, or neither. -/
inductive Build
  | bmi
  | sse42
  | plain
  deriving DecidableEq, Repr

/-- The literals of `Fin 4`, which index the keys, share this instance. -/
instance neZeroFour : NeZero (4 : Nat) := ⟨by decide⟩

def postKeys : Fin 4 → List UInt8
  | 0 => ascii ['i', 'n', 't', 'e', 'r', 'f', 'a', 'c', 'e']
  | 1 => ascii ['m', 'e', 't', 'h', 'o', 'd']
  | 2 => ascii ['p', 'a', 'r', 'a', 'm', 'e', 't', 'e', 'r', 'T', 'y', 'p', 'e', 's',
      'S', 't', 'r', 'i', 'n', 'g']
  | 3 => ascii ['p', 'a', 'r', 'a', 'm', 'e', 't', 'e', 'r']

def postKeysSize : Fin 4 → Int
  | 0 => 9
  | 1 => 6
  | 2 => 20
  | 3 => 9

/-- `header_bytes`: magic, magic, reg/2way/fastjson-serialization, status; request id. -/
def headerBytes : List UInt8 := [0xda, 0xbb, 0xc6, 0, 0, 0, 0, 0, 0, 0, 0, 0]

/-- A value stored in a `short`. -/
def toShort (x : Int) : Int := signed 16 x

/-- The number of `short` values: an index loop over a `short` that has not ended after
this many passes repeats itself. -/
def shortCycle : Nat := 65536

/-- `while (str[i] != '=') { i++; }` -/
def serialSeekEq (m : Mem UInt8) (str : Int) : Nat → Int → Option Int
  | 0, _ => none
  | fuel + 1, i => if m (str + i) = 61 then some i else serialSeekEq m str fuel (toShort (i + 1))

/-- `while (i < len && str[i] != '&') { i++; }` -/
def serialSeekAmp (m : Mem UInt8) (str len : Int) : Nat → Int → Option Int
  | 0, _ => none
  | fuel + 1, i =>
    if i < len ∧ m (str + i) ≠ 38 then serialSeekAmp m str len fuel (toShort (i + 1)) else some i

def serialSplitLoop (m : Mem UInt8) (str len : Int) : Nat → Int → List Int → Option (List Int)
  | 0, _, _ => none
  | fuel + 1, i, off => do
    let i ← serialSeekEq m str shortCycle i
    let off := off ++ [i]
    let i ← serialSeekAmp m str len shortCycle i
    let off := off ++ [i]
    if i = len then some off else serialSplitLoop m str len fuel i off

/-- `serial_split`: the offsets it fills; it returns their number. -/
def serialSplit (m : Mem UInt8) (str len : Int) : Option (List Int) :=
  serialSplitLoop m str len shortCycle 0 [-1]

def mmLoaduSi128 (m : Mem UInt8) (a : Int) : List UInt8 := m.read a 16

/-- `_mm_cmpeq_epi8` against a register that holds `c` in every lane. -/
def mmCmpeqEpi8 (c : UInt8) (v : List UInt8) : List UInt8 :=
  v.map (fun b => if b = c then 0xff else 0)

/-- `_mm_movemask_epi8`: bit `k` is the sign bit of byte `k`. -/
def mmMovemaskEpi8 : List UInt8 → Nat
  | [] => 0
  | b :: v => (if 128 ≤ b.toNat then 1 else 0) + 2 * mmMovemaskEpi8 v

/-- Trailing zeros of the low `n` bits. -/
def trailingZeros : Nat → Nat → Nat
  | 0, _ => 0
  | n + 1, x => if x % 2 = 1 then 0 else 1 + trailingZeros n (x / 2)

def tzcntU32 (x : Nat) : Nat := trailingZeros 32 x

/-- Set bits among the low `n` bits. -/
def popcount : Nat → Nat → Nat
  | 0, _ => 0
  | n + 1, x => x % 2 + popcount n (x / 2)

/-- `__tzcnt_u32_using_popcnt_cmpgt`: eight 16-bit lanes hold the low half (or, if it is
zero, the high half) cut to its low 1, 2, ..., 8 bits; the lanes that are zero are
counted, two mask bits each. -/
def tzcntU32UsingPopcntCmpgt (x : Nat) : Nat :=
  let low := x &&& 0xff
  let retCnt := if low = 0 then 8 else 0
  let halfBits := if low = 0 then (x >>> 8) &&& 0xff else low
  let truncPivotU := [0x1, 0x3, 0x7, 0xf, 0x1f, 0x3f, 0x7f, 0xff].map (fun e => halfBits &&& e)
  let cmpRes := truncPivotU.flatMap (fun w => if w = 0 then [(0xff : UInt8), 0xff] else [0, 0])
  retCnt + popcount 32 (mmMovemaskEpi8 cmpRes) >>> 1

/-- The vector scan loop for `c`: 16 bytes at a time to the first lane that holds `c`,
or until `last` holds. `wrap` is the type of the index, `tzcnt` the lane count. -/
def simdSeek (tzcnt : Nat → Nat) (wrap : Int → Int) (m : Mem UInt8) (str : Int) (c : UInt8)
    (last : Int → Bool) : Nat → Int → Option Int
  | 0, _ => none
  | fuel + 1, i =>
    let mask := mmMovemaskEpi8 (mmCmpeqEpi8 c (mmLoaduSi128 m (str + i)))
    let advance := if mask = 0 then 16 else tzcnt mask
    let i := wrap (i + advance)
    if advance < 16 ∨ last i = true then some i else simdSeek tzcnt wrap m str c last fuel i

/-- The loop that `sse4_split_efficient` and `avx_split_efficient` share. -/
def simdSplitLoop (tzcnt : Nat → Nat) (m : Mem UInt8) (str len : Int) :
    Nat → Int → List Int → Option (List Int)
  | 0, _, _ => none
  | fuel + 1, i, off => do
    let i ← simdSeek tzcnt toShort m str 61 (fun _ => false) shortCycle i
    let off := off ++ [i]
    let i ← simdSeek tzcnt toShort m str 38 (fun i => decide (len ≤ i)) shortCycle i
    let off := off ++ [if i < len then i else len]
    if len ≤ i then some off else simdSplitLoop tzcnt m str len fuel i off

/-- `sse4_split_efficient`: zeroes 16 bytes behind the body and restores them. -/
def sse4SplitEfficient (m : Mem UInt8) (str len : Int) : Option (Mem UInt8 × List Int) := do
  let restoreBuf := m.read (str + len) 16
  let m := m.write (str + len) (List.replicate 16 0)
  let off ← simdSplitLoop tzcntU32UsingPopcntCmpgt m str len shortCycle 0 [-1]
  some (m.write (str + len) restoreBuf, off)

/-- `avx_split_efficient`: zeroes 16 bytes behind the body and leaves them zero. -/
def avxSplitEfficient (m : Mem UInt8) (str len : Int) : Option (Mem UInt8 × List Int) := do
  let m := m.write (str + len) (List.replicate 16 0)
  let off ← simdSplitLoop tzcntU32 m str len shortCycle 0 [-1]
  some (m, off)

/-- `simd_split_efficient`: the memory afterwards and the offsets. -/
def simdSplitEfficient (b : Build) (m : Mem UInt8) (str len : Int) :
    Option (Mem UInt8 × List Int) :=
  match b with
  | .bmi => avxSplitEfficient m str len
  | .sse42 => sse4SplitEfficient m str len
  | .plain => (serialSplit m str len).map (fun off => (m, off))

/-- The offsets that the scan for `=` of `serial_split` reads. -/
def serialSeekEqReads (m : Mem UInt8) (str : Int) : Nat → Int → List Int
  | 0, _ => []
  | fuel + 1, i =>
    i :: if m (str + i) = 61 then [] else serialSeekEqReads m str fuel (toShort (i + 1))

/-- The offsets that the scan for `&` of `serial_split` reads. -/
def serialSeekAmpReads (m : Mem UInt8) (str len : Int) : Nat → Int → List Int
  | 0, _ => []
  | fuel + 1, i =>
    if i < len then
      i :: if m (str + i) ≠ 38 then serialSeekAmpReads m str len fuel (toShort (i + 1)) else []
    else []

def serialSplitReads (m : Mem UInt8) (str len : Int) : Nat → Int → List Int
  | 0, _ => []
  | fuel + 1, i =>
    serialSeekEqReads m str shortCycle i ++
      match serialSeekEq m str shortCycle i with
      | none => []
      | some i =>
        serialSeekAmpReads m str len shortCycle i ++
          match serialSeekAmp m str len shortCycle i with
          | none => []
          | some i => if i = len then [] else serialSplitReads m str len fuel i

/-- The offsets at which a vector scan loads 16 bytes. -/
def simdSeekLoads (tzcnt : Nat → Nat) (wrap : Int → Int) (m : Mem UInt8) (str : Int) (c : UInt8)
    (last : Int → Bool) : Nat → Int → List Int
  | 0, _ => []
  | fuel + 1, i =>
    let mask := mmMovemaskEpi8 (mmCmpeqEpi8 c (mmLoaduSi128 m (str + i)))
    let advance := if mask = 0 then 16 else tzcnt mask
    let next := wrap (i + advance)
    i :: if advance < 16 ∨ last next = true then []
      else simdSeekLoads tzcnt wrap m str c last fuel next

def simdSplitLoads (tzcnt : Nat → Nat) (m : Mem UInt8) (str len : Int) : Nat → Int → List Int
  | 0, _ => []
  | fuel + 1, i =>
    simdSeekLoads tzcnt toShort m str 61 (fun _ => false) shortCycle i ++
      match simdSeek tzcnt toShort m str 61 (fun _ => false) shortCycle i with
      | none => []
      | some i =>
        simdSeekLoads tzcnt toShort m str 38 (fun i => decide (len ≤ i)) shortCycle i ++
          match simdSeek tzcnt toShort m str 38 (fun i => decide (len ≤ i)) shortCycle i with
          | none => []
          | some i => if len ≤ i then [] else simdSplitLoads tzcnt m str len fuel i

/-- The blocks of memory that `simd_split_efficient` reads or stores, each by its offset and
its size: the 16 bytes behind the body that the vector paths zero, and what they load. -/
def splitTouches (b : Build) (m : Mem UInt8) (str len : Int) : List (Int × Nat) :=
  let zeroed := m.write (str + len) (List.replicate 16 0)
  match b with
  | .bmi => (str + len, 16) ::
      (simdSplitLoads tzcntU32 zeroed str len shortCycle 0).map fun i => (str + i, 16)
  | .sse42 => (str + len, 16) ::
      (simdSplitLoads tzcntU32UsingPopcntCmpgt zeroed str len shortCycle 0).map
        fun i => (str + i, 16)
  | .plain => (serialSplitReads m str len shortCycle 0).map fun i => (str + i, 1)

/-! ### Writing the package -/

def hex2int (ch : UInt8) : Int :=
  let ch := charVal ch
  if ch < 65 then ch - 48 else 10 + (if ch < 97 then ch - 65 else ch - 97)

/-- `while (seek < val_off_end && str[seek] != '%') { seek++; }` -/
def serialSeekPercent (m : Mem UInt8) (str valOffEnd : Int) : Nat → Int → Option Int
  | 0, _ => none
  | fuel + 1, seek =>
    if seek < valOffEnd ∧ m (str + seek) ≠ 37 then
      serialSeekPercent m str valOffEnd fuel (seek + 1)
    else some seek

/-- Find the first `%` or the end; the vector paths clamp back to the end. -/
def seekPercent (b : Build) (m : Mem UInt8) (str valOffEnd seek : Int) : Option Int :=
  let fuel := (valOffEnd - seek).toNat + 1
  let clamp := fun seek : Int => if valOffEnd < seek then valOffEnd else seek
  match b with
  | .bmi =>
    (simdSeek tzcntU32 id m str 37 (fun i => decide (valOffEnd ≤ i)) fuel seek).map clamp
  | .sse42 =>
    (simdSeek tzcntU32UsingPopcntCmpgt id m str 37 (fun i => decide (valOffEnd ≤ i)) fuel
      seek).map clamp
  | .plain => serialSeekPercent m str valOffEnd fuel seek

/-- The copy and decode loop of `serialize_str`; the new offset and the written memory. -/
def decodeLoop (b : Build) (m : Mem UInt8) (str valOffEnd : Int) :
    Nat → Int → Int → Mem UInt8 → Option (Int × Mem UInt8)
  | 0, _, _, _ => none
  | fuel + 1, lastSeek, offset, res =>
    if lastSeek < valOffEnd then do
      let seek ← seekPercent b m str valOffEnd lastSeek
      let advance := seek - lastSeek
      let res := res.write offset (m.read (str + lastSeek) advance.toNat)
      let offset := offset + advance
      if seek ≠ valOffEnd then
        let decoded := hex2int (m (str + (seek + 1))) * 16 + hex2int (m (str + (seek + 2)))
        decodeLoop b m str valOffEnd fuel (seek + 3) (offset + 1)
          (res.write offset [UInt8.ofInt decoded])
      else
        decodeLoop b m str valOffEnd fuel seek offset res
    else some (offset, res)

/-- `strncmp(key, str + beg, end - beg) == 0` after the sizes were found equal; the keys
hold no NUL, so all bytes are compared. -/
def keyMatches (m : Mem UInt8) (a : Int) (key : List UInt8) : Bool :=
  m.read a key.length == key

/-- The field loop of `serialize_str` from field `i` on, `n` fields to go. -/
def serializeStrLoop (b : Build) (m : Mem UInt8) (str : Int) (off : List Int) (j : Fin 4) :
    Nat → Nat → Int → Mem UInt8 → Option (Int × Mem UInt8)
  | 0, _, offset, res => some (offset, res)
  | n + 1, i, offset, res =>
    let realI := i * 2
    let keyOffBeg := off.getD realI 0 + 1
    let keyOffEnd := off.getD (realI + 1) 0
    if (postKeys j).head? = some (m (str + keyOffBeg)) ∧
        keyOffEnd - keyOffBeg = postKeysSize j ∧
        keyMatches m (str + keyOffBeg) (postKeys j) = true then do
      let res := res.write offset [34]
      let offset := offset + 1
      let valOffBeg := off.getD (realI + 1) 0 + 1
      let valOffEnd := off.getD (realI + 2) 0
      let (offset, res) ←
        decodeLoop b m str valOffEnd ((valOffEnd - valOffBeg).toNat + 1) valOffBeg offset res
      some (offset + 2, res.write offset [34, 10])
    else serializeStrLoop b m str off j n (i + 1) offset res

def serializeStr (b : Build) (m : Mem UInt8) (str : Int) (off : List Int) (lenOff : Nat)
    (offset : Int) (res : Mem UInt8) (j : Fin 4) : Option (Int × Mem UInt8) :=
  serializeStrLoop b m str off j (lenOff / 2) 0 offset res

/-- The indices at which `serialize_str` reads `off`, from field `i` on. -/
def serializeStrIndices (m : Mem UInt8) (str : Int) (off : List Int) (j : Fin 4) :
    Nat → Nat → List Nat
  | 0, _ => []
  | n + 1, i =>
    let realI := i * 2
    let keyOffBeg := off.getD realI 0 + 1
    let keyOffEnd := off.getD (realI + 1) 0
    realI :: (realI + 1) ::
      if (postKeys j).head? = some (m (str + keyOffBeg)) ∧
          keyOffEnd - keyOffBeg = postKeysSize j ∧
          keyMatches m (str + keyOffBeg) (postKeys j) = true then [realI + 1, realI + 2]
      else serializeStrIndices m str off j n (i + 1)

/-- `{"path":"` -/
def pathPrefix : List UInt8 := ascii ['\x7b', '"', 'p', 'a', 't', 'h', '"', ':', '"']

/-- `"}` and a newline. -/
def pathSuffix : List UInt8 := ascii ['"', '\x7d', '\n']

/-- The field loop of `serialize_path_dict`; `memcpy` takes a negative `advance` for a size
near 2^64. -/
def serializePathDictLoop (m : Mem UInt8) (str : Int) (off : List Int) :
    Nat → Nat → Int → Mem UInt8 → Option (Int × Mem UInt8)
  | 0, _, offset, res => some (offset, res)
  | n + 1, i, offset, res =>
    let realI := i * 2
    let beg := off.getD realI 0 + 1
    let fin := off.getD (realI + 1) 0
    if fin - beg = postKeysSize 0 ∧ keyMatches m (str + beg) (postKeys 0) = true then
      let res := res.write offset pathPrefix
      let offset := offset + 9
      let advance := off.getD (realI + 2) 0 - off.getD (realI + 1) 0 - 1
      if advance < 0 then none
      else
        let res := res.write offset (m.read (str + off.getD (realI + 1) 0 + 1) advance.toNat)
        let offset := offset + advance
        some (offset + 3, res.write offset pathSuffix)
    else serializePathDictLoop m str off n (i + 1) offset res

def serializePathDict (m : Mem UInt8) (str : Int) (off : List Int) (lenOff : Nat) (offset : Int)
    (res : Mem UInt8) : Option (Int × Mem UInt8) :=
  serializePathDictLoop m str off (lenOff / 2) 0 offset res

/-- The indices at which `serialize_path_dict` reads `off`, from field `i` on. -/
def serializePathDictIndices (m : Mem UInt8) (str : Int) (off : List Int) : Nat → Nat → List Nat
  | 0, _ => []
  | n + 1, i =>
    let realI := i * 2
    let beg := off.getD realI 0 + 1
    let fin := off.getD (realI + 1) 0
    realI :: (realI + 1) ::
      if fin - beg = postKeysSize 0 ∧ keyMatches m (str + beg) (postKeys 0) = true then
        [realI + 2, realI + 1]
      else serializePathDictIndices m str off n (i + 1)

def generateHeader (res : Mem UInt8) (bodyLen requestId : Int) : Mem UInt8 :=
  let res := res.write 0 headerBytes
  let res := res.write 4 (longTo8bytes requestId)
  res.write 12 [UInt8.ofInt (bodyLen >>> (24 : Nat)), UInt8.ofInt (bodyLen >>> (16 : Nat)),
    UInt8.ofInt (bodyLen >>> (8 : Nat)), UInt8.ofInt bodyLen]

/-- `"2.0.1"` and a newline. -/
def dubboVersion : List UInt8 := ascii ['"', '2', '.', '0', '.', '1', '"', '\n']

/-- `null` and a newline. -/
def nullLine : List UInt8 := ascii ['n', 'u', 'l', 'l', '\n']

def generateBody (b : Build) (res m : Mem UInt8) (str : Int) (off : List Int) (lenOff : Nat) :
    Option (Int × Mem UInt8) := do
  let offset := 16
  let res := res.write offset dubboVersion
  let offset := offset + 8
  let (offset, res) ← serializeStr b m str off lenOff offset res 0
  let res := res.write offset nullLine
  let offset := offset + 5
  let (offset, res) ← serializeStr b m str off lenOff offset res 1
  let (offset, res) ← serializeStr b m str off lenOff offset res 2
  let (offset, res) ← serializeStr b m str off lenOff offset res 3
  serializePathDict m str off lenOff offset res

/-- The size of `short off[32]`. -/
def offCapacity : Nat := 32

/-- `generate_res_in_place`: the memory of `str` afterwards, the memory of `res`, and the
returned size. Nothing is known once the splitter has written past the end of `off`. -/
def generateResInPlace (b : Build) (res m : Mem UInt8) (str len reqId : Int) :
    Option (Mem UInt8 × Mem UInt8 × Int) := do
  let (m, off) ← simdSplitEfficient b m str len
  if offCapacity < off.length then none
  else
    let (offset, res) ← generateBody b res m str off off.length
    some (m, generateHeader res (offset - 16) reqId, offset)

end MeshAgent.Model
