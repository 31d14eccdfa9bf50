import PassingLink.Display.Settings
import PassingLink.Input.Gesture
import PassingLink.Lib.Refinement
import PassingLink.Output.Descriptor
import PassingLink.Output.Pump

/-! The writes of `hid.cpp` behind the display and the menu: every report polls the inputs, a poll
may act on the menu, and the menu sets the delay of the next report. -/
namespace PassingLink.Output
open Display Input Lib HidDescriptor

/-- One HID runs. No code reads `owed`, the successful writes whose `int_in_ready` is to come. -/
structure Controller where
  front : Front
  hid : ProbeType
  nxHid : NXHid
  lastReportCounter : UInt8
  touchpad : Touchpad
  pending : Option UInt32
  owed : Nat

inductive ControllerEvent where
  | setIdle (read : I2cRead)
  | clearHalt (endpoint : UInt8) (read : I2cRead)
  | intInReady (ticks : UInt64) (read : I2cRead)
  /-- `ticks` is what `k_uptime_ticks` returns before the poll, `rc` what `hid_int_ep_write` does
  after it. -/
  | expire (ticks : UInt64) (p : Poll) (rc : Int) (read : I2cRead)
  /-- `get_report` on the control endpoint. -/
  | getReport (reportId : UInt8) (buf : List UInt8) (p : Poll)
  /-- Calls from elsewhere: the shell, Bluetooth, the detection of the console. -/
  | front (e : FrontEvent)

namespace Controller
variable (memory : Memory) (b : Board) (version : CString) (s : Controller)

/-- After `display_init`, `input_init` and `usb_hid_init`. -/
def init (hid : ProbeType) (hidReportDelayTicks : UInt32) : Controller where
  front := Front.displayInit memory b (Device.boot b) hidReportDelayTicks
  hid := hid
  nxHid := NXHid.init
  lastReportCounter := 0
  touchpad := Touchpad.init
  pending := none
  owed := 0

def call (e : FrontEvent) : Controller := { s with front := s.front.step memory b version e }

def submitWrite (read : I2cRead) : Controller :=
  let touchpad := s.touchpad.inputTouchpadPoll read
  { s with touchpad, pending := some s.front.hidReportDelayTicks }
    |>.call memory b version (.touchpad touchpad.touchpadData)

/-- `GetReport` of a HID for the type Input, which polls for the report that exists. -/
def getInputReport (reportId : UInt8) (buf : List UInt8) (p : Poll) :
    (Int × List UInt8) × Controller :=
  let out := (inputGetState b s.front.device p).out
  let polled :=
    if reportId = 0x01 ∧ buf.length = 64 then s.call memory b version (.input (.poll p)) else s
  match s.hid with
  | .nx => (NX.getInputReport reportId buf (some out), polled)
  | .ps3 => (PS3.getInputReport reportId buf (some out), polled)
  | .ps4 =>
      let (reply, lastReportCounter) := PS4.getInputReport s.lastReportCounter reportId buf
        (some out) polled.front.device.touchpadData
      (reply, { polled with lastReportCounter })

/-- Also the bytes that `hid_int_ep_write` has taken. After a poll whose menu action halts the
device nothing follows. -/
def writeReport (ticks : UInt64) (p : Poll) (rc : Int) (read : I2cRead) :
    Option (List UInt8) × Controller :=
  let s := s.call memory b version (.inputRead ticks)
  let (reply, s) := s.getInputReport memory b version 1 (List.replicate 64 0) p
  if s.front.device.halted then (none, s)
  else if reply.1 < 0 then (none, s)
  else if rc < 0 then (none, s.submitWrite memory b version read)
  else (some (sent reply), { s with owed := s.owed + 1 })

/-- The timer expires only when it is running, and `int_in_ready` comes once for a write. -/
def step (e : ControllerEvent) : Controller :=
  if s.front.device.halted then s
  else
    match e with
    | .setIdle read => s.submitWrite memory b version read
    | .clearHalt endpoint read =>
        let s := if s.hid = .nx then { s with nxHid := s.nxHid.clearHalt endpoint } else s
        if endpoint &&& 0x80 ≠ 0 then s.submitWrite memory b version read else s
    | .intInReady ticks read =>
        if 0 < s.owed then
          { s with owed := s.owed - 1 } |>.call memory b version (.usbWrite ticks)
            |>.submitWrite memory b version read
        else s
    | .expire ticks p rc read =>
        if s.pending.isSome then
          ({ s with pending := none }.writeReport memory b version ticks p rc read).2
        else s
    | .getReport reportId buf p => (s.getInputReport memory b version reportId buf p).2
    | .front e => s.call memory b version e

/-- The report that the host is given by an event. -/
def delivered (e : ControllerEvent) : Option (List UInt8) :=
  match e with
  | .expire ticks p rc read =>
      if s.front.device.halted ∨ s.pending = none then none
      else ({ s with pending := none }.writeReport memory b version ticks p rc read).1
  | _ => none

end Controller

def ProbeType.reportDescriptor : ProbeType → List UInt8
  | .nx => NX.reportDescriptor
  | .ps3 => PS3.reportDescriptor
  | .ps4 => PS4.reportDescriptor

def ProbeType.numbered : ProbeType → Bool
  | .nx => NX.numbered
  | .ps3 => PS3.numbered
  | .ps4 => PS4.numbered

/-! ### What a report does -/

section Report
variable {memory : Memory} {b : Board} {version : CString}

def Decodes (hid : ProbeType) (input : InputState) (bytes : List UInt8) : Prop :=
  HostReads hid.reportDescriptor hid.numbered hid.buttons input bytes

/-- The state in which a report has polled the inputs. -/
def Controller.polled (memory : Memory) (b : Board) (version : CString) (s : Controller)
    (ticks : UInt64) (p : Poll) (lastReportCounter : UInt8) : Controller :=
  { s.call memory b version (.inputRead ticks) |>.call memory b version (.input (.poll p)) with
    lastReportCounter }

/-- A report that is due halts the device, is retried, or is taken by the host. -/
inductive Written (memory : Memory) (b : Board) (version : CString) (s : Controller) (ticks : UInt64)
    (p : Poll) (read : I2cRead) : Option (List UInt8) × Controller → Prop where
  | halted (counter : UInt8)
      (halts : (s.polled memory b version ticks p counter).front.device.halted = true) :
      Written memory b version s ticks p read (none, s.polled memory b version ticks p counter)
  | retried (counter : UInt8) : Written memory b version s ticks p read
      (none, (s.polled memory b version ticks p counter).submitWrite memory b version read)
  | taken (counter : UInt8) (bytes : List UInt8)
      (decodes : Decodes s.hid (inputGetState b s.front.device p).out bytes) :
      Written memory b version s ticks p read
        (some bytes, { s.polled memory b version ticks p counter with owed := s.owed + 1 })

variable (memory b version) in
theorem inputRead_device (s : Front) (ticks : UInt64) :
    (s.step memory b version (.inputRead ticks)).device = s.device := by
  unfold Front.step
  split
  · rfl
  · dsimp only [Front.recordInputRead]
    split <;> rfl

theorem getInputReport_one (s : Controller) (p : Poll) :
    ∃ reply counter, s.getInputReport memory b version 1 (List.replicate 64 0) p =
        (reply, { s.call memory b version (.input (.poll p)) with lastReportCounter := counter }) ∧
      0 ≤ reply.1 ∧ Decodes s.hid (inputGetState b s.front.device p).out (sent reply) := by
  have full : (List.replicate 64 (0 : UInt8)).length = 64 := List.length_replicate
  have succeeds (input : InputState) (encode : InputState → List UInt8) :
      0 ≤ (getInputReport 1 (List.replicate 64 0) (some input) encode).1 := by
    rw [getInputReport_accepted full]
    exact Int.natCast_nonneg _
  have polls : (1 : UInt8) = 0x01 ∧ (List.replicate 64 (0 : UInt8)).length = 64 := ⟨rfl, full⟩
  unfold Controller.getInputReport
  rw [if_pos polls]
  obtain ⟨front, hid, nxHid, lastReportCounter, touchpad, pending, owed⟩ := s
  cases hid with
  | nx => exact ⟨_, lastReportCounter, rfl, succeeds _ NX.encode, NX.decodes _ full⟩
  | ps3 => exact ⟨_, lastReportCounter, rfl, succeeds _ PS3.encode, PS3.decodes _ full⟩
  | ps4 => exact ⟨_, _, rfl, succeeds _ (PS4.encode _ _), PS4.decodes _ full _ _⟩

theorem written (s : Controller) (ticks : UInt64) (p : Poll) (rc : Int) (read : I2cRead) :
    Written memory b version s ticks p read
      (s.writeReport memory b version ticks p rc read) := by
  obtain ⟨reply, counter, is, succeeds, decodes⟩ :=
    @getInputReport_one memory b version (s.call memory b version (.inputRead ticks)) p
  have device : (s.call memory b version (.inputRead ticks)).front.device = s.front.device :=
    inputRead_device memory b version s.front ticks
  rw [device] at decodes
  unfold Controller.writeReport
  dsimp only
  rw [is]
  dsimp only
  split
  · rename_i halts
    exact .halted counter halts
  · rw [if_neg (Int.not_lt.mpr succeeds)]
    split
    · exact .retried counter
    · exact .taken counter _ decodes

end Report

/-! ### Steps -/

/-- All that a step does. -/
inductive Stepped (memory : Memory) (b : Board) (version : CString) (s : Controller) :
    Controller → Prop where
  | still (nxHid : NXHid) (lastReportCounter : UInt8) :
      Stepped memory b version s { s with nxHid, lastReportCounter }
  | submitted (nxHid : NXHid) (read : I2cRead) : Stepped memory b version s
      ({ s with nxHid }.submitWrite memory b version read)
  | ready (ticks : UInt64) (read : I2cRead) : Stepped memory b version s
      ({ s with owed := s.owed - 1 } |>.call memory b version (.usbWrite ticks)
        |>.submitWrite memory b version read)
  | reported {ticks : UInt64} {p : Poll} {read : I2cRead} {result : Option (List UInt8) × Controller}
      (written : Written memory b version { s with pending := none } ticks p read result) :
      Stepped memory b version s result.2
  | requested (counter : UInt8) (p : Poll) : Stepped memory b version s
      { s.call memory b version (.input (.poll p)) with lastReportCounter := counter }
  | called (e : FrontEvent) : Stepped memory b version s (s.call memory b version e)

section Steps
variable {memory : Memory} {b : Board} {version : CString}

theorem getInputReport_stepped (s : Controller) (reportId : UInt8) (buf : List UInt8) (p : Poll) :
    Stepped memory b version s (s.getInputReport memory b version reportId buf p).2 := by
  unfold Controller.getInputReport
  by_cases polls : reportId = 0x01 ∧ buf.length = 64
  · rw [if_pos polls]
    cases s.hid with
    | nx | ps3 => exact .requested s.lastReportCounter p
    | ps4 => exact .requested _ p
  · rw [if_neg polls]
    cases s.hid with
    | nx | ps3 => exact .still s.nxHid s.lastReportCounter
    | ps4 => exact .still s.nxHid _

theorem stepped (s : Controller) (e : ControllerEvent) :
    Stepped memory b version s (s.step memory b version e) := by
  unfold Controller.step
  split
  · exact .still s.nxHid s.lastReportCounter
  · cases e with
    | setIdle read => exact .submitted s.nxHid read
    | clearHalt endpoint read =>
        dsimp only
        split
        · split
          · exact .submitted _ read
          · exact .submitted s.nxHid read
        · split
          · exact .still _ s.lastReportCounter
          · exact .still s.nxHid s.lastReportCounter
    | intInReady ticks read =>
        dsimp only
        split
        · exact .ready ticks read
        · exact .still s.nxHid s.lastReportCounter
    | expire ticks p rc read =>
        dsimp only
        split
        · exact .reported (written { s with pending := none } ticks p rc read)
        · exact .still s.nxHid s.lastReportCounter
    | getReport reportId buf p => exact getInputReport_stepped s reportId buf p
    | front e => exact .called e

/-- The display, the menu and the inputs see polls, measurements and new touchpad data. -/
theorem front_refines :
    Refines (Controller.step memory b version) (Front.step memory b version) Controller.front := by
  intro s e
  have moved := @stepped memory b version s e
  generalize s.step memory b version e = s' at moved
  cases moved with
  | still => exact ⟨[], rfl⟩
  | submitted => exact ⟨[.touchpad _], rfl⟩
  | ready ticks read => exact ⟨[.usbWrite ticks, .touchpad _], rfl⟩
  | reported written =>
      rename_i ticks p read _
      cases written with
      | halted | taken => exact ⟨[.inputRead ticks, .input (.poll p)], rfl⟩
      | retried => exact ⟨[.inputRead ticks, .input (.poll p), .touchpad _], rfl⟩
  | requested counter p => exact ⟨[.input (.poll p)], rfl⟩
  | called e => exact ⟨[e], rfl⟩

theorem Controller.submitWrite_pending (s : Controller) (read : I2cRead) :
    (s.submitWrite memory b version read).pending =
      some (s.submitWrite memory b version read).front.hidReportDelayTicks := by
  simp only [Controller.submitWrite, Controller.call, Front.step]
  split <;> rfl

/-- A report is scheduled with the delay that the menu has set by then. -/
theorem step_pending (s : Controller) (e : ControllerEvent) :
    let s' := s.step memory b version e
    s'.pending = s.pending ∨ s'.pending = none ∨
      s'.pending = some s'.front.hidReportDelayTicks := by
  have moved := @stepped memory b version s e
  intro s'
  change Stepped memory b version s s' at moved
  generalize s' = s' at moved
  cases moved with
  | still | requested | called => exact .inl rfl
  | submitted | ready => exact .inr (.inr (Controller.submitWrite_pending _ _))
  | reported written =>
      cases written with
      | halted | taken => exact .inr (.inl rfl)
      | retried => exact .inr (.inr (Controller.submitWrite_pending _ _))

end Steps

/-! ### The pump in the controller -/

namespace Controller

end Controller

section Pumped
variable {memory : Memory} {b : Board} {version : CString}

end Pumped

section Steps
variable {memory : Memory} {b : Board} {version : CString}

theorem delivered_decodes {s : Controller} {e : ControllerEvent} {bytes : List UInt8}
    (delivered : s.delivered memory b version e = some bytes) :
    ∃ ticks p rc read, e = .expire ticks p rc read ∧
      Decodes s.hid (inputGetState b s.front.device p).out bytes := by
  cases e with
  | expire ticks p rc read =>
      simp only [Controller.delivered] at delivered
      split at delivered
      · cases delivered
      · have report := @written memory b version { s with pending := none } ticks p rc read
        generalize Controller.writeReport memory b version { s with pending := none } ticks p rc read =
          result at report delivered
        cases report with
        | halted => cases delivered
        | retried => cases delivered
        | taken counter bytes' decodes =>
            cases delivered
            exact ⟨ticks, p, rc, read, rfl, decodes⟩
  | setIdle | clearHalt | intInReady | getReport | front => cases delivered

end Steps

/-! ### Runs -/

/-- What every step preserves. -/
structure Composed (memory : Memory) (b : Board) (version : CString) (s : Controller) : Prop where
  mirrored : Mirrored memory b version s.front
  settings : SettingsInRange b s.front
  pending : ∀ ticks, s.pending = some ticks → DelayInRange b ticks

theorem Composed.step {memory : Memory} {b : Board} {version : CString} (display : b.display = true)
    (rate : 0 < b.ticksPerSec) (word : b.ticksPerSec < 2 ^ 32)
    (s : Controller) (e : ControllerEvent) (composed : Composed memory b version s) :
    Composed memory b version (s.step memory b version e) := by
  have mirrored := front_refines.preserves (Mirrored.step display) s e composed.mirrored
  have settings : SettingsInRange b (s.step memory b version e).front :=
    front_refines.preserves (fun s e => SettingsInRange.step rate word s e) s e composed.settings
  refine ⟨mirrored, settings, ?_⟩
  intro ticks is
  rcases @step_pending memory b version s e with kept | stopped | set
  · exact composed.pending ticks (kept.symm.trans is)
  · cases stopped.symm.trans is
  · cases set.symm.trans is
    exact settings.delay

end PassingLink.Output
