import MeshAgent.Foundations.TracedLoop
import MeshAgent.Model.FrameBuffer
import MeshAgent.Model.Tokenizer

/-!
# `provider_agent.c`: the relay between a consumer agent and Dubbo

A relay owns two buffers of `max_buffer_size` bytes. A read callback is modelled from the
moment libuv has stored the bytes; what it hands to `uv_write` is part of its trace.
-/

namespace MeshAgent.Model
open MeshAgent.Foundations

/-- `P_DEFAULT_PACKAGE_SIZE`, also the size of `dubbo_package` and `response_all`. -/
def pDefaultPackageSize : Nat := 4096

structure TcpRelay where
  rawBuf1 : Mem UInt8
  rawBuf2 : Mem UInt8
  rawBuf1Size : Nat
  rawBuf2Size : Nat
  maxBufferSize : Nat

/-- `init_tcp_relay_t`; the fresh buffers hold unknown bytes. -/
def initTcpRelay (size : Nat) (raw1 raw2 : Mem UInt8) : TcpRelay where
  rawBuf1 := raw1
  rawBuf2 := raw2
  rawBuf1Size := 0
  rawBuf2Size := 0
  maxBufferSize := size

/-- What a read callback does to the outside: it handles a frame and hands the bytes, if
any, to `uv_write`, or it closes the connection to the consumer agent. -/
inductive RelayEvent
  | frame (header payload : List UInt8) (written : Option (List UInt8))
  | closeConn1

/-- The length that `p_alloc_buffer1` offers, at `raw_buf1 + raw_buf1_size`. -/
def pAllocBuffer1 (relay : TcpRelay) : Nat := relay.maxBufferSize - relay.rawBuf1Size

/-- The length that `p_alloc_buffer2` offers, at `raw_buf2 + raw_buf2_size`. -/
def pAllocBuffer2 (relay : TcpRelay) : Nat := relay.maxBufferSize - relay.rawBuf2Size

/-- The call of `generate_res_in_place` on the body behind the frame header, into the
fresh block `dubboPackage`. Nothing is known once the vector paths store behind `raw_buf1`
or the package has outgrown its block. -/
def pTranscode (b : Build) (dubboPackage : Mem UInt8) (relay : TcpRelay) (packageLength : Int) :
    Option (TcpRelay × List UInt8) := do
  let reqId := bytes8ToLong relay.rawBuf1 4
  let len := toShort packageLength
  if b ≠ .plain ∧ (relay.maxBufferSize : Int) < 12 + len + 16 then none
  else
    let (raw, res, dubboPackageSize) ←
      generateResInPlace b dubboPackage relay.rawBuf1 12 len reqId
    if (pDefaultPackageSize : Int) < dubboPackageSize then none
    else some ({ relay with rawBuf1 := raw }, res.read 0 (unsigned 32 dubboPackageSize))

/-- One pass of the loop of `p_read_connection_data_http_req`. -/
def pReadConnectionDataHttpReqPass (b : Build) (dubboPackage : Mem UInt8) (relay : TcpRelay) :
    Pass TcpRelay RelayEvent :=
  match bufferedFrame 12 0 relay.rawBuf1 relay.rawBuf1Size with
  | none => .ret
  | some (packageLength, lastLength) =>
    let header := relay.rawBuf1.read 0 12
    let payload := relay.rawBuf1.read 12 packageLength.toNat
    match pTranscode b dubboPackage relay packageLength with
    | none => .emit (.frame header payload none) none
    | some (relay, package) =>
      let (raw, size) := takeOff relay.rawBuf1 relay.rawBuf1Size lastLength
      .emit (.frame header payload (some package))
        (some { relay with rawBuf1 := raw, rawBuf1Size := size })

/-- `p_read_connection_data_http_req`. A loop that has made more passes than there were bytes
takes none off and does not end. -/
def pReadConnectionDataHttpReq (b : Build) (dubboPackage : Mem UInt8) (relay : TcpRelay)
    (nread : Int) : List RelayEvent × Option TcpRelay :=
  if 0 < nread then
    let relay := { relay with rawBuf1Size := relay.rawBuf1Size + nread.toNat }
    tracedLoop (pReadConnectionDataHttpReqPass b dubboPackage) (relay.rawBuf1Size + 1) relay
  else if nread < 0 then ([.closeConn1], some relay)
  else ([], some relay)

/-- libuv stores a chunk in the offered buffer and calls `p_read_connection_data_http_req`. -/
def TcpRelay.read1 (b : Build) (dubboPackage : Mem UInt8) (relay : TcpRelay)
    (chunk : List UInt8) : List RelayEvent × Option TcpRelay :=
  pReadConnectionDataHttpReq b dubboPackage
    { relay with rawBuf1 := relay.rawBuf1.write relay.rawBuf1Size chunk } chunk.length

/-! ### Results -/

def responseTemplate : List UInt8 :=
  ascii ['H', 'T', 'T', 'P', '/', '1', '.', '1', ' ', '2', '0', '0', ' ', 'O', 'K', '\r', '\n',
    'C', 'o', 'n', 't', 'e', 'n', 't', '-', 'L', 'e', 'n', 'g', 't', 'h', ':', ' ', ' ', ' ',
    '\r', '\n', '\r', '\n']

def responseTemplateLen : Int := 39

/-- The answer to the consumer agent, built in the fresh block `responseAll`. Nothing is
known once the copied length is negative or the answer has outgrown its block. -/
def pAnswer (responseAll : Mem UInt8) (relay : TcpRelay) (length : Int) : Option (List UInt8) :=
  let responseBody := 12
  let hashLength := length - 3
  if hashLength < 0 ∨ (pDefaultPackageSize : Int) < 12 + responseTemplateLen + hashLength then none
  else
    let all := responseAll.write responseBody responseTemplate
    let all := all.write (responseBody + 33) (intToString hashLength)
    let all := all.write (responseBody + responseTemplateLen)
      (relay.rawBuf2.read 18 hashLength.toNat)
    let resCurrentLength := responseTemplateLen + hashLength
    let all := all.write 0 (intToFourChar resCurrentLength)
    let all := all.write 4 (relay.rawBuf2.read 4 8)
    some (all.read 0 (unsigned 32 (resCurrentLength + 12)))

/-- The blocks of `raw_buf2` that the answer to a result is built from, each by its offset
and its size. -/
def pAnswerReads (length : Int) : List (Int × Nat) :=
  [(12, 4), (3, 1), (18, sizeTOfInt (length - 3)), (4, 8)]

/-- The blocks of `response_all` that the answer is stored in. -/
def pAnswerWrites (length : Int) : List (Int × Nat) :=
  [(12, responseTemplateLen.toNat), (12 + 33, (intToString (length - 3)).length),
    (12 + responseTemplateLen, sizeTOfInt (length - 3)), (0, 4), (4, 8)]

/-- The length of the answer that is handed to `uv_write`. -/
def pAnswerSize (length : Int) : Int := responseTemplateLen + (length - 3) + 12

/-- One pass of the loop of `p_on_read_results`. -/
def pOnReadResultsPass (responseAll : Mem UInt8) (relay : TcpRelay) : Pass TcpRelay RelayEvent :=
  match bufferedFrame 16 12 relay.rawBuf2 relay.rawBuf2Size with
  | none => .ret
  | some (length, lastLength) =>
    let header := relay.rawBuf2.read 0 16
    let payload := relay.rawBuf2.read 16 length.toNat
    let (raw, size) := takeOff relay.rawBuf2 relay.rawBuf2Size lastLength
    let next := { relay with rawBuf2 := raw, rawBuf2Size := size }
    if charVal (relay.rawBuf2 3) = 20 then
      match pAnswer responseAll relay length with
      | none => .emit (.frame header payload none) none
      | some answer => .emit (.frame header payload (some answer)) (some next)
    else .emit (.frame header payload none) (some next)

def pOnReadResults (responseAll : Mem UInt8) (relay : TcpRelay) (nread : Int) :
    List RelayEvent × Option TcpRelay :=
  if 0 < nread then
    let relay := { relay with rawBuf2Size := relay.rawBuf2Size + nread.toNat }
    tracedLoop (pOnReadResultsPass responseAll) (relay.rawBuf2Size + 1) relay
  else if nread < 0 then ([.closeConn1], some relay)
  else ([], some relay)

/-- libuv stores a chunk in the offered buffer and calls `p_on_read_results`. -/
def TcpRelay.read2 (responseAll : Mem UInt8) (relay : TcpRelay) (chunk : List UInt8) :
    List RelayEvent × Option TcpRelay :=
  pOnReadResults responseAll
    { relay with rawBuf2 := relay.rawBuf2.write relay.rawBuf2Size chunk } chunk.length

end MeshAgent.Model
