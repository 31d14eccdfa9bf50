import PassingLink.Ps4.Auth

/-! The report handlers of `ps4/hid.cpp` that touch the authentication state. A reply
buffer is the list of its bytes; a write outside it would make the list longer. -/
namespace PassingLink.Ps4
open Lib Auth

inductive HidReportType where
  | input
  | output
  | feature
  deriving DecidableEq, Repr

def crcBytes (crc : UInt32) : List UInt8 :=
  [crc.toUInt8, (crc >>> 8).toUInt8, (crc >>> 16).toUInt8, (crc >>> 24).toUInt8]

@[simp] theorem length_crcBytes (crc : UInt32) : (crcBytes crc).length = 4 := rfl

def checkCrc (env : Env) (data : List UInt8) : Bool :=
  if data.length < 4 then false
  else crcBytes (env.crc32Ieee (data.take (data.length - 4))) == data.drop (data.length - 4)

def writeWithCrc (env : Env) (dst src : List UInt8) : Int × List UInt8 :=
  if dst.length < 4 ∨ dst.length - 4 < src.length then (-1, dst)
  else
    let crc := env.crc32Ieee src
    ((src.length : Int) + 4, overwrite (overwrite dst 0 src) src.length (crcBytes crc))

/-- The reply to report 0x03, copied from an actual device. -/
def output0x03 : List UInt8 :=
  [0x3, 0x21, 0x27, 0x4, 0x40, 0x7, 0x2c, 0x56, 0x0, 0x0, 0x0, 0x0, 0x0, 0x0, 0x0, 0x0,
   0x0, 0x0, 0xd, 0xd, 0x0, 0x0, 0x0, 0x0, 0x0, 0x0, 0x0, 0x0, 0x0, 0x0, 0x0, 0x0,
   0x0, 0x0, 0x0, 0x0, 0x0, 0x0, 0x0, 0x0, 0x0, 0x0, 0x0, 0x0, 0x0, 0x0, 0x0, 0x0]

def output0xF3 : List UInt8 := [0xf3, 0x0, 0x38, 0x38, 0, 0, 0, 0]

def chunkData (state : AuthState) (chunk : List UInt8) : List UInt8 :=
  [0xF1, state.nonceId, state.nextPart, 0] ++ chunk

/-- The end of the 0xF1 branch, from the answer of `get_next_signature_chunk`. -/
def sendChunk (env : Env) (state : AuthState) (buf : List UInt8) (chunk : Option (List UInt8)) :
    Int × List UInt8 :=
  match chunk with
  | none => (-1, buf)
  | some chunk => writeWithCrc env buf (chunkData state chunk)

def getSignature (env : Env) (buf : List UInt8) : Auth (Int × List UInt8) := do
  let state ← load
  if state.type ≠ .sendingSignature then return (-1, buf)
  else if buf.length ≠ 64 then return (-1, buf)
  else
    -- `output_buffer` is what is left of the 60 byte array after its 4 byte header.
    let chunk ← getNextSignatureChunk env 56
    return sendChunk env state buf chunk

def getSigningState (env : Env) (buf : List UInt8) : Auth (Int × List UInt8) := do
  let state ← load
  let ready : UInt8 := if state.type = .sendingSignature then 0 else 16
  return writeWithCrc env buf ([0xF2, state.nonceId, ready] ++ List.replicate 9 0)

def getFeatureReport (env : Env) (reportId : UInt8) (buf : List UInt8) :
    Auth (Int × List UInt8) :=
  let buf := overwrite buf 0 [reportId]
  if reportId = 0x03 then
    if buf.length ≠ output0x03.length then return (-1, buf)
    else return ((buf.length : Int), output0x03)
  else if reportId = 0xF1 then
    if env.ps4Auth then getSignature env buf else return (-1, buf)
  else if reportId = 0xF2 then
    if env.ps4Auth then getSigningState env buf else return (-1, buf)
  else if reportId = 0xF3 then
    if buf.length ≠ output0xF3.length then return (-1, buf)
    else return ((buf.length : Int), output0xF3)
  else return (-1, buf)

def removeSuffix (data : List UInt8) (n : Nat) : List UInt8 := data.take (data.length - n)

/-- The bytes of a nonce report that are handed to `set_nonce`: the 4 byte header and
the 4 byte CRC are cut off, and the last packet carries 24 bytes of padding. -/
def noncePayload (data : List UInt8) (noncePart : UInt8) : List UInt8 :=
  let data := removeSuffix (data.drop 4) 4
  if noncePart = 4 then removeSuffix data 24 else data

def setReport (env : Env) (reportType : Option HidReportType) (reportId : UInt8)
    (data : List UInt8) : Auth Bool :=
  if reportType ≠ some .feature then return false
  else if reportId = 0xF0 then
    -- Without authentication the source returns -1, which is true as a `bool`.
    if !env.ps4Auth then return true
    else if data.length ≠ 64 then return false
    else if !checkCrc env data then return false
    else
      let nonceId := data.getD 1 0
      let noncePart := data.getD 2 0
      setNonce env nonceId noncePart (noncePayload data noncePart)
  else return false

theorem length_noncePayload {data : List UInt8} (size : data.length = 64) (noncePart : UInt8) :
    (noncePayload data noncePart).length = if noncePart = 4 then 32 else 56 := by
  simp only [noncePayload, removeSuffix]
  split <;> simp only [List.length_take, List.length_drop, size] <;> omega

theorem checkCrc_append (env : Env) (src : List UInt8) :
    checkCrc env (src ++ crcBytes (env.crc32Ieee src)) = true := by
  have size : (src ++ crcBytes (env.crc32Ieee src)).length - 4 = src.length := by
    rw [List.length_append, length_crcBytes]
    omega
  have enough : ¬ (src ++ crcBytes (env.crc32Ieee src)).length < 4 := by
    rw [List.length_append, length_crcBytes]
    omega
  rw [checkCrc, if_neg enough, size, List.take_left, List.drop_left, beq_self_eq_true]

/-- In a buffer of exactly the right size the reply is the data followed by its CRC. -/
theorem writeWithCrc_exact {env : Env} {dst src : List UInt8}
    (size : dst.length = src.length + 4) :
    writeWithCrc env dst src =
      ((src.length : Int) + 4, src ++ crcBytes (env.crc32Ieee src)) := by
  have roomy : ¬ (dst.length < 4 ∨ dst.length - 4 < src.length) := by omega
  have inner : overwrite dst 0 src = src ++ dst.drop src.length := by
    rw [overwrite, List.take_zero, List.nil_append, Nat.zero_add]
  have past : (src ++ dst.drop src.length).length ≤ src.length + (crcBytes (env.crc32Ieee src)).length := by
    simp only [List.length_append, List.length_drop, length_crcBytes, size]
    omega
  simp only [writeWithCrc, if_neg roomy, inner]
  rw [overwrite, List.take_left, List.drop_eq_nil_of_le past, List.append_nil]

end PassingLink.Ps4
