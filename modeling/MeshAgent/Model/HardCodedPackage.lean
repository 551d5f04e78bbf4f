import MeshAgent.Model.Tokenizer

/-!
# Packages with hard-wired literals

The last functions of `tokenizer.c` and those of `tokenizer_fast_req.c` serve requests to one
method only: the body is spliced between literals, at fixed offsets. `none` as a result
means that a length passed to `memcpy` is negative.
-/

namespace MeshAgent.Model
open MeshAgent.Foundations

/-- The name of the service, which the literals contain. -/
def helloService : List UInt8 :=
  ascii ['c', 'o', 'm', '.', 'a', 'l', 'i', 'b', 'a', 'b', 'a', '.', 'd', 'u', 'b', 'b', 'o', '.',
    'p', 'e', 'r', 'f', 'o', 'r', 'm', 'a', 'n', 'c', 'e', '.', 'd', 'e', 'm', 'o', '.', 'p',
    'r', 'o', 'v', 'i', 'd', 'e', 'r', '.', 'I', 'H', 'e', 'l', 'l', 'o', 'S', 'e', 'r', 'v',
    'i', 'c', 'e']

def methodDetailValuesOnea : List UInt8 :=
  ascii ['"', '2', '.', '0', '.', '1', '"', '\n', '"'] ++ (helloService ++
    ascii ['"', '\n', 'n', 'u', 'l', 'l', '\n', '"', 'h', 'a', 's', 'h', '"', '\n', '"', 'L', 'j',
        'a', 'v', 'a', '/', 'l', 'a', 'n', 'g', '/', 'S', 't', 'r', 'i', 'n', 'g', ';', '"', '\n'])

/-- `hard_code_values[3]`. -/
def hardCodePath : List UInt8 :=
  ascii ['\n', '\x7b', '"', 'p', 'a', 't', 'h', '"', ':', '"'] ++ (helloService ++
    ascii ['"', '\x7d', '\n'])

/-- `generate_body_hard_code`; it returns the offset behind the body. -/
def generateBodyHardCode (res m : Mem UInt8) (parameterStr parameterLen : Int) :
    Option (Int × Mem UInt8) :=
  if parameterLen < 0 then none
  else
    let res := res.write 16 (methodDetailValuesOnea.take 101)
    let offset := 16 + 101
    let res := res.write offset [34]
    let offset := offset + 1
    let res := res.write offset (m.read parameterStr parameterLen.toNat)
    let offset := offset + parameterLen
    let res := res.write offset [34]
    let offset := offset + 1
    let pathLen := hardCodePath.length
    some (offset + pathLen, res.write offset hardCodePath)

/-- `generate_res_in_place_hard_code`: the memory of `res` and the returned size. -/
def generateResInPlaceHardCode (res m : Mem UInt8) (str len reqId : Int) :
    Option (Mem UInt8 × Int) := do
  let len := toShort len
  let (offset, res) ← generateBodyHardCode res m (str + 136) (len - 136)
  some (generateHeader res (offset - 16) reqId, offset)

/-! ### `tokenizer_fast_req.c` -/

def methodDetailPath : List UInt8 :=
  ascii ['\n', '\x7b', '"', 'p', 'a', 't', 'h', '"', ':', '"'] ++ (helloService ++
    ascii ['"', '\x7d', '\n'])

def methodDetailValuesOne : List UInt8 :=
  ascii ['"', '2', '.', '0', '.', '1', '"', '\n', '"'] ++ (helloService ++
    ascii ['"', '\n', 'n', 'u', 'l', 'l', '\n', '"', 'h', 'a', 's', 'h', '"', '\n', '"', 'L', 'j',
        'a', 'v', 'a', '/', 'l', 'a', 'n', 'g', '/', 'S', 't', 'r', 'i', 'n', 'g', ';', '"', '\n'])

/-- `generate_fast_req_package_header`; the two bytes at 4 are left as they are. -/
def generateFastReqPackageHeader (res : Mem UInt8) (bodyLen requestId : Int) : Mem UInt8 :=
  let res := res.write 0 (intToFourChar bodyLen)
  res.write 6 (longTo8bytes requestId)

/-- `generate_fast_req_package_in_place`: the memory of `res` and the returned size. -/
def generateFastReqPackageInPlace (res m : Mem UInt8) (str len reqId : Int) :
    Option (Mem UInt8 × Int) :=
  let bodyLen := toShort len - 136
  if bodyLen < 0 then none
  else
    let res := res.write 14 (m.read (str + 136) bodyLen.toNat)
    some (generateFastReqPackageHeader res bodyLen reqId, bodyLen + 14)

/-- `generate_dubbo_package`: the memory of `res` and the returned size. -/
def generateDubboPackage (res fastReqPackage : Mem UInt8) (fastReqLen : Int) :
    Option (Mem UInt8 × Int) :=
  if fastReqLen < 14 then none
  else
    let res := res.write 0 (headerBytes.take 4)
    let res := res.write 4 (fastReqPackage.read 6 8)
    let res := res.write 16 (methodDetailValuesOne.take 101)
    let offset := 16 + 101
    let res := res.write offset [34]
    let offset := offset + 1
    let res := res.write offset (fastReqPackage.read 14 (fastReqLen - 14).toNat)
    let offset := offset + (fastReqLen - 14)
    let res := res.write offset [34]
    let offset := offset + 1
    let res := res.write offset (methodDetailPath.take 70)
    let offset := offset + 70
    some (res.write 12 (intToFourChar (offset - 16)), offset)

end MeshAgent.Model
