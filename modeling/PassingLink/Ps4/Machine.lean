import PassingLink.Lib.Runs
import PassingLink.Ps4.Hid
import PassingLink.Ps4.Signature

/-! The USB side and the signing work item, interleaved operation by operation. USB
callbacks are serialised among themselves; the work queue runs `sign_nonce` once for
every submission. -/
namespace PassingLink.Ps4
open Lib Auth

inductive Request where
  | setReport (reportType : Option HidReportType) (reportId : UInt8) (data : List UInt8)
  | getFeatureReport (reportId : UInt8) (buf : List UInt8)

inductive Reply where
  | set (accepted : Bool)
  | get (rc : Int) (buf : List UInt8)

def setReply (p : Auth Bool) : Auth Reply := do return .set (← p)

def getReply (p : Auth (Int × List UInt8)) : Auth Reply := do
  let (rc, buf) ← p
  return .get rc buf

def Request.program (env : Env) : Request → Auth Reply
  | .setReport reportType reportId data => setReply (Ps4.setReport env reportType reportId data)
  | .getFeatureReport reportId buf => getReply (Ps4.getFeatureReport env reportId buf)

/-- `usb` and `worker` are what is left of the callback and of the work item that are
running; a finished program means that side is idle. `request` is the one `usb` serves. -/
structure Machine where
  shared : Shared
  request : Request
  usb : Auth Reply
  worker : Auth Unit

def Machine.boot : Machine where
  shared := Shared.boot
  request := .setReport none 0 []
  usb := .ret (.set false)
  worker := .ret ()

inductive Event where
  /-- The host sends a request; it waits while a callback is running. -/
  | request (req : Request)
  | usb
  /-- The work queue takes the submitted item, or the item performs its next operation;
  `result` is how an mbedTLS call made there ends. -/
  | worker (result : MbedResult)

def MbedResult.success : MbedResult := ⟨0, List.replicate 256 0, List.length_replicate⟩

def Machine.step (env : Env) (m : Machine) : Event → Machine
  | .request req =>
      match m.usb with
      | .ret _ => { m with request := req, usb := req.program env }
      | .op _ _ => m
  | .usb =>
      let (usb, shared) := Prog.advance (exec env .success) (m.usb, m.shared)
      { m with usb, shared }
  | .worker result =>
      match m.worker with
      | .ret _ =>
          if m.shared.workPending then
            { m with shared := { m.shared with workPending := false }, worker := signNonce env }
          else m
      | .op _ _ =>
          let (worker, shared) := Prog.advance (exec env result) (m.worker, m.shared)
          { m with worker, shared }

/-! ### What an observer of a step sees -/

structure NoncePacket where
  nonceId : UInt8
  noncePart : UInt8
  payload : List UInt8

/-- The packet a report carries, if its handler gets as far as reading it. -/
def Request.noncePacket : Request → Option NoncePacket
  | .setReport _ _ data =>
      some ⟨data.getD 1 0, data.getD 2 0, noncePayload data (data.getD 2 0)⟩
  | .getFeatureReport _ _ => none

/-- The buffer of a successful reply to report 0xF1. -/
def Request.chunkReply : Request → Reply → Option (List UInt8)
  | .getFeatureReport reportId _, .get rc buf => if reportId = 0xF1 ∧ 0 ≤ rc then some buf else none
  | _, _ => none

/-- The packet whose compare-and-swap is the next operation of the callback and will
succeed. -/
def Machine.accepting (m : Machine) : Option NoncePacket :=
  match m.usb with
  | .op (.cas expected _) _ =>
      if expected.type = .receivingNonce ∧ m.shared.authState.toInt = expected.toInt then
        m.request.noncePacket
      else none
  | _ => none

inductive Observation where
  | silent
  | accepted (p : NoncePacket)
  | chunk (buf : List UInt8)
  | result (rc : Int)

def Machine.observe (env : Env) (m : Machine) : Event → Observation
  | .request _ => .silent
  | .usb =>
      match m.accepting with
      | some p => .accepted p
      | none =>
          match m.usb, (m.step env .usb).usb with
          | .op _ _, .ret reply =>
              match m.request.chunkReply reply with
              | some buf => .chunk buf
              | none => .silent
          | _, _ => .silent
  | .worker result =>
      match m.worker with
      | .op .sha256 _ => .result result.rc
      | .op (.rsaSign _ _) _ => .result result.rc
      | _ => .silent

end PassingLink.Ps4
