import Mathlib.Algebra.Group.Nat.Defs
import PassingLink.Lib.Atomic
import PassingLink.Lib.Buffer

/-! The PS4 authentication state and the functions of `auth.cpp`, as programs over
the atomic accesses they make to `auth_state`, `nonce`, `nonce_signature` and the
work item `k_work_sign`. -/
namespace PassingLink.Ps4
open Lib

inductive AuthStateType where
  | receivingNonce
  | waitingToSign
  | signing
  | sendingSignature
  deriving DecidableEq, Repr

/-- The value of the `uint8_t` enumeration, in declaration order. -/
def AuthStateType.toNat : AuthStateType → Nat
  | .receivingNonce => 0
  | .waitingToSign => 1
  | .signing => 2
  | .sendingSignature => 3

structure AuthState where
  type : AuthStateType
  nonceId : UInt8
  nextPart : UInt8
  padding : UInt8
  deriving DecidableEq, Repr

/-- `atomic_u32::to_int`: the four bytes of the struct read as one word. -/
def AuthState.toInt (x : AuthState) : Nat :=
  x.type.toNat + 256 * (x.nonceId.toNat + 256 * (x.nextPart.toNat + 256 * x.padding.toNat))

/-- The RSA-2048 key and its certificate data. The two public numbers have at most
256 bytes, which is what the reply format has room for. -/
structure PS4Key where
  serial : List UInt8
  signature : List UInt8
  rsaN : Nat
  rsaE : Nat
  serial_size : serial.length = 16
  signature_size : signature.length = 256
  rsaN_size : rsaN < 256 ^ 256
  rsaE_size : rsaE < 256 ^ 256

structure ProvisioningData where
  ps4Key : Option PS4Key

/-- What a device is built and provisioned with, and the library functions it calls:
`sha256` and `rsaSign` are what a successful mbedTLS call computes (the random
generator handed to it only writes zeros, so the signature is a function of the
hash), `crc32Ieee` is Zephyr's. -/
structure Env where
  ps4Auth : Bool
  provisioningData : Option ProvisioningData
  sha256 : List UInt8 → List UInt8
  rsaSign : PS4Key → List UInt8 → List UInt8
  rsaSign_size : ∀ key hash, (rsaSign key hash).length = 256
  crc32Ieee : List UInt8 → UInt32

/-- The key that `set_nonce` insists on and the other functions read unchecked. -/
def Env.ps4Key (env : Env) : Option PS4Key := env.provisioningData.bind ProvisioningData.ps4Key

def Env.CanSign (env : Env) : Prop := env.ps4Auth = true ∧ env.ps4Key.isSome

/-- How the next mbedTLS call ends: `error = 0` is success, any other value is the
call returning `-error`, with `spill` left in the output buffer. -/
structure MbedResult where
  error : Nat
  spill : List UInt8
  spill_size : spill.length = 256

def MbedResult.rc (r : MbedResult) : Int := -(r.error : Int)

theorem MbedResult.rc_eq_zero {r : MbedResult} : r.rc = 0 ↔ r.error = 0 := by
  simp only [MbedResult.rc]
  omega

theorem MbedResult.rc_neg {r : MbedResult} : r.rc < 0 ↔ r.error ≠ 0 := by
  simp only [MbedResult.rc]
  omega

structure Shared where
  authState : AuthState
  nonce : List UInt8
  nonceSignature : List UInt8
  workPending : Bool
  panicked : Bool

def Shared.boot : Shared where
  authState := ⟨.receivingNonce, 0, 0, 0⟩
  nonce := List.replicate 256 0
  nonceSignature := List.replicate 256 0
  workPending := false
  panicked := false

inductive Op where
  | load
  | cas (expected newValue : AuthState)
  | writeNonce (offset : Nat) (data : List UInt8)
  | sha256
  | rsaSign (key : PS4Key) (hash : List UInt8)
  | readSignature
  | submit
  | panic

@[reducible] def Op.Res : Op → Type
  | .load => AuthState
  | .cas _ _ => Bool
  | .writeNonce _ _ => Unit
  | .sha256 => Int × List UInt8
  | .rsaSign _ _ => Int
  | .readSignature => List UInt8
  | .submit => Unit
  | .panic => Unit

/-- One atomic operation. A failed signature leaves its output buffer overwritten;
submitting a work item that is already queued does nothing. -/
def exec (env : Env) (r : MbedResult) : (o : Op) → Shared → o.Res × Shared
  | .load, s => (s.authState, s)
  | .cas expected newValue, s =>
      if s.authState.toInt = expected.toInt then (true, { s with authState := newValue })
      else (false, s)
  | .writeNonce offset data, s => ((), { s with nonce := overwrite s.nonce offset data })
  | .sha256, s => ((r.rc, if r.error = 0 then env.sha256 s.nonce else r.spill.take 32), s)
  | .rsaSign key hash, s =>
      (r.rc, { s with nonceSignature := if r.error = 0 then env.rsaSign key hash else r.spill })
  | .readSignature, s => (s.nonceSignature, s)
  | .submit, s => ((), { s with workPending := true })
  | .panic, s => ((), { s with panicked := true })

abbrev Auth (α : Type) := Prog Op Op.Res α

namespace Auth

def load : Auth AuthState := .op .load .ret
def cas (expected newValue : AuthState) : Auth Bool := .op (.cas expected newValue) .ret
def writeNonce (offset : Nat) (data : List UInt8) : Auth Unit := .op (.writeNonce offset data) .ret
def sha256 : Auth (Int × List UInt8) := .op .sha256 .ret
def rsaSign (key : PS4Key) (hash : List UInt8) : Auth Int := .op (.rsaSign key hash) .ret
def readSignature : Auth (List UInt8) := .op .readSignature .ret
def submit : Auth Unit := .op .submit .ret
def panic : Auth Unit := .op .panic .ret

variable {α : Type}

@[simp] theorem load_bind (f : AuthState → Auth α) : (load >>= f) = .op .load f := rfl

@[simp] theorem cas_bind (x y : AuthState) (f : Bool → Auth α) :
    (cas x y >>= f) = .op (.cas x y) f := rfl

@[simp] theorem sha256_bind (f : Int × List UInt8 → Auth α) : (sha256 >>= f) = .op .sha256 f := rfl

@[simp] theorem rsaSign_bind (key : PS4Key) (hash : List UInt8) (f : Int → Auth α) :
    (rsaSign key hash >>= f) = .op (.rsaSign key hash) f := rfl

@[simp] theorem readSignature_bind (f : List UInt8 → Auth α) :
    (readSignature >>= f) = .op .readSignature f := rfl

end Auth

open Auth

/-! ### `sign_nonce` -/

def sendSignature (signing : AuthState) : Auth Unit := do
  let newState := { signing with type := .sendingSignature, nextPart := 0 }
  let _ ← cas signing newState
  return ()

def signHash (env : Env) (signing : AuthState) (hashedNonce : List UInt8) : Auth Unit := do
  match env.ps4Key with
  | none => return () -- a null dereference: the item is only submitted when there is a key
  | some key =>
    let rc ← rsaSign key hashedNonce
    if rc < 0 then return () else sendSignature signing

/-- `sign_nonce` from the call that hashes the nonce. -/
def hashNonce (env : Env) (signing : AuthState) : Auth Unit := do
  let (rc, hashedNonce) ← sha256
  if rc ≠ 0 then return () else signHash env signing hashedNonce

def beginSigning (env : Env) (currentState : AuthState) : Auth Unit := do
  let newState := { currentState with type := .signing }
  if ← cas currentState newState then hashNonce env newState else return ()

def signNonce (env : Env) : Auth Unit := do
  let currentState ← load
  if currentState.type ≠ .waitingToSign then return () else beginSigning env currentState

/-! ### `set_nonce` -/

def submitIfDone (noncePart : UInt8) : Auth Bool := do
  if noncePart = 4 then
    submit
    return true
  else return true

def nonceAccepted (currentState : AuthState) (nonceId noncePart : UInt8) : AuthState :=
  if noncePart = 4 then { currentState with type := .waitingToSign }
  else if noncePart = 0 then { currentState with nonceId := nonceId }
  else { currentState with nextPart := currentState.nextPart + 1 }

def commitNonce (currentState : AuthState) (nonceId noncePart : UInt8) : Auth Bool := do
  if ← cas currentState (nonceAccepted currentState nonceId noncePart) then
    submitIfDone noncePart
  else return false

/-- `set_nonce` from its `memcpy`, after all checks. -/
def storeNonce (currentState : AuthState) (nonceId noncePart : UInt8) (data : List UInt8) :
    Auth Bool := do
  writeNonce (noncePart.toNat * 56) data
  commitNonce currentState nonceId noncePart

def setNonce (env : Env) (nonceId noncePart : UInt8) (data : List UInt8) : Auth Bool := do
  match env.provisioningData with
  | none => return false
  | some pd =>
    match pd.ps4Key with
    | none => return false
    | some _ =>
      let currentState ← load
      if currentState.type ≠ .receivingNonce then return false
      else if noncePart > 4 then return false
      else if noncePart ≠ 0 ∧ nonceId ≠ currentState.nonceId then return false
      else storeNonce currentState nonceId noncePart data

/-! ### `copy_signature` and `get_next_signature_chunk` -/

/-- One entry of the table in `copy_signature`; `copy` is its `function` with `arg`
already supplied: from the room left in the buffer, the offset into the part and the
length of the part to the bytes it writes, or `none` when it panics. -/
structure SignaturePart where
  length : Nat
  copy : (room offset expectedSize : Nat) → Option (List UInt8)

def copyGeneric (arg : List UInt8) (room offset expectedSize : Nat) : List UInt8 :=
  let bytes := expectedSize - offset
  slice arg offset (if bytes > room then room else bytes)

def bigEndian : Nat → Nat → List UInt8
  | 0, _ => []
  | n + 1, x => bigEndian n (x / 256) ++ [UInt8.ofNat (x % 256)]

/-- `mbedtls_mpi_write_binary`, which fails when the number does not fit. -/
def mpiWriteBinary (mpi n : Nat) : Option (List UInt8) :=
  if mpi < 256 ^ n then some (bigEndian n mpi) else none

def copyMpi (mpi : Nat) (room offset expectedSize : Nat) : Option (List UInt8) :=
  if expectedSize = 256 then
    (mpiWriteBinary mpi 256).map fun data => copyGeneric data room offset expectedSize
  else none

/-- The loop of `copy_signature` over the parts that are left, with the room left in
the buffer and the offset still to skip: the bytes written, or `none` for a panic. -/
def copyParts : List SignaturePart → (room offset : Nat) → Option (List UInt8)
  | [], room, _ => if room = 0 then some [] else none
  | part :: parts, room, offset =>
      if offset ≥ part.length then copyParts parts room (offset - part.length)
      else do
        let copied ← part.copy room offset part.length
        if room - copied.length = 0 then return copied
        else
          let rest ← copyParts parts (room - copied.length) 0
          return copied ++ rest

def signatureParts (key : PS4Key) (nonceSignature : List UInt8) : List SignaturePart :=
  [ { length := 256, copy := fun r o e => some (copyGeneric nonceSignature r o e) },
    { length := 16, copy := fun r o e => some (copyGeneric key.serial r o e) },
    { length := 256, copy := copyMpi key.rsaN },
    { length := 256, copy := copyMpi key.rsaE },
    { length := 256, copy := fun r o e => some (copyGeneric key.signature r o e) },
    { length := 24, copy := fun r o e => some (copyGeneric (List.replicate 24 0) r o e) } ]

def copySignature (key : PS4Key) (nonceSignature : List UInt8) (room offset : Nat) :
    Option (List UInt8) :=
  copyParts (signatureParts key nonceSignature) room offset

def chunkSent (currentState : AuthState) : AuthState :=
  if currentState.nextPart + 1 = 19 then
    { currentState with type := .receivingNonce, nextPart := 0 }
  else { currentState with nextPart := currentState.nextPart + 1 }

/-- `get_next_signature_chunk` from its compare-and-swap, the buffer being filled. -/
def advanceChunk (currentState : AuthState) (buf : List UInt8) : Auth (Option (List UInt8)) := do
  if ← cas currentState (chunkSent currentState) then return some buf else return none

def copyChunk (env : Env) (currentState : AuthState) (room : Nat) :
    Auth (Option (List UInt8)) := do
  let nonceSignature ← readSignature
  match env.ps4Key.bind fun key =>
      copySignature key nonceSignature room (currentState.nextPart.toNat * 56) with
  | none =>
      panic
      return none
  | some buf => advanceChunk currentState buf

/-- The filled buffer of `room` bytes, or `none` where the source returns false. -/
def getNextSignatureChunk (env : Env) (room : Nat) : Auth (Option (List UInt8)) := do
  if room ≠ 56 then return none
  else
    let currentState ← load
    if currentState.type ≠ .sendingSignature then return none
    else copyChunk env currentState room

end PassingLink.Ps4
