import PassingLink.Input.Machine
import PassingLink.Input.Touchpad
import PassingLink.Output.Probe
import PassingLink.Output.Reports

/-! The writes of `hid.cpp` with CONFIG_PASSINGLINK_OUTPUT_USB_DEFERRED: every report that has
been sent, and every write that has failed, schedules the next one. -/
namespace PassingLink.Output
open Input Lib

/-- `hid` is the HID that USB runs, `pending` the delay with which `delayed_write_work` is
scheduled. No code reads `owed`, the successful writes whose `int_in_ready` is to come. -/
structure Pump where
  hid : ProbeType
  nxHid : NXHid
  lastReportCounter : UInt8
  device : Device
  touchpad : Touchpad
  hidReportDelayTicks : UInt32
  pending : Option UInt32
  owed : Nat

namespace Pump

def init (b : Board) (hid : ProbeType) (hidReportDelayTicks : UInt32) : Pump where
  hid := hid
  nxHid := NXHid.init
  lastReportCounter := 0
  device := Device.boot b
  touchpad := Touchpad.init
  hidReportDelayTicks := hidReportDelayTicks
  pending := none
  owed := 0

/-- Scheduling the work again replaces its delay. `touchpad_data` is what the next input state
is given. -/
def submitWrite (s : Pump) (read : I2cRead) : Pump :=
  let s := { s with pending := some s.hidReportDelayTicks }
  let touchpad := s.touchpad.inputTouchpadPoll read
  { s with touchpad, device := { s.device with touchpadData := touchpad.touchpadData } }

def doWrite (s : Pump) (read : I2cRead) : Pump := s.submitWrite read

/-- `GetReport` of a HID for the type Input. The inputs are polled only for the report that
exists; `input_get_raw_state` and `input_parse` return true in every configuration. -/
def getInputReport (b : Board) (s : Pump) (reportId : UInt8) (buf : List UInt8) (p : Poll) :
    (Int × List UInt8) × Pump :=
  let result := inputGetState b s.device p
  let polled := if reportId = 0x01 ∧ buf.length = 64 then { s with device := result.device } else s
  match s.hid with
  | .nx => (NX.getInputReport reportId buf (some result.out), polled)
  | .ps3 => (PS3.getInputReport reportId buf (some result.out), polled)
  | .ps4 =>
      let (reply, lastReportCounter) := PS4.getInputReport s.lastReportCounter reportId buf
        (some result.out) polled.device.touchpadData
      (reply, { polled with lastReportCounter })

/-- `rc` is what `hid_int_ep_write` returns. The bytes of the buffer that are not part of the
report are not written. -/
def writeReport (b : Board) (s : Pump) (p : Poll) (rc : Int) (read : I2cRead) : Pump :=
  -- After a poll whose menu action halts the device nothing follows; here the writes go on.
  let (reply, s) := s.getInputReport b 1 (List.replicate 64 0) p
  if reply.1 < 0 then s
  else if rc < 0 then s.submitWrite read
  else { s with owed := s.owed + 1 }

end Pump

inductive PumpEvent where
  | setIdle (read : I2cRead)
  | clearHalt (endpoint : UInt8) (read : I2cRead)
  | intInReady (read : I2cRead)
  | expire (p : Poll) (rc : Int) (read : I2cRead)
  /-- `get_report` on the control endpoint. -/
  | getReport (reportId : UInt8) (buf : List UInt8) (p : Poll)
  | input (e : Event)
  /-- Whatever else changes the inputs, as the shell does through the menu. -/
  | elsewhere (device : Device)
  | setReportDelayTicks (ticks : UInt32)

/-- The timer expires only when it is running, and `int_in_ready` comes once for a write. -/
def Pump.step (b : Board) (s : Pump) : PumpEvent → Pump
  | .setIdle read => s.doWrite read
  | .clearHalt endpoint read =>
      let s := if s.hid = .nx then { s with nxHid := s.nxHid.clearHalt endpoint } else s
      if endpoint &&& 0x80 ≠ 0 then s.doWrite read else s
  | .intInReady read => if 0 < s.owed then { s with owed := s.owed - 1 }.doWrite read else s
  | .expire p rc read =>
      if s.pending.isSome then { s with pending := none }.writeReport b p rc read else s
  | .getReport reportId buf p => (s.getInputReport b reportId buf p).2
  | .input e => { s with device := s.device.step b e }
  | .elsewhere device => { s with device }
  | .setReportDelayTicks ticks => { s with hidReportDelayTicks := ticks }

def ProbeType.layout : ProbeType → Layout Member
  | .nx => NX.layout
  | .ps3 => PS3.layout
  | .ps4 => PS4.layout

def ProbeType.reportSize : ProbeType → Nat
  | .nx => 8
  | .ps3 => 27
  | .ps4 => 64

def ProbeType.buttons : ProbeType → List OutputButton
  | .ps3 => commonButtons
  | .nx | .ps4 => allButtons

/-- The report that `write_report` asks for says what the poll has made of the inputs. -/
structure Pump.Answers (b : Board) (s : Pump) (p : Poll) : Prop where
  succeeds : 0 ≤ (s.getInputReport b 1 (List.replicate 64 0) p).1.1
  readsBack : ReadsBack s.hid.layout s.hid.reportSize s.hid.buttons (inputGetState b s.device p).out
    (List.replicate 64 0) (s.getInputReport b 1 (List.replicate 64 0) p).1

section Pump
variable {b : Board}

end Pump

end PassingLink.Output
