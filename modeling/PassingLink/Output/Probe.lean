import PassingLink.Output.LedTokens

/-! The detection of the console in `usb.cpp`: in place, by uninitialising one HID and starting
the next, or by reboots that only `boot_probe_type` survives. -/
namespace PassingLink.Output
open Input Lib

inductive ProbeType where
  | nx
  | ps3
  | ps4
  deriving DecidableEq, Repr

def ProbeType.value : ProbeType → UInt64
  | .nx => 0xaaaaaaaaaaaaaaaa
  | .ps3 => 0xa0a0a0a0a0a0a0a0
  | .ps4 => 0x5555555555555555

/-- The options of the outputs, with what they depend on, and the USB identity of the build. -/
structure UsbConfig where
  outputSwitch : Bool
  switchProbe : Bool
  outputPs3 : Bool
  ps3Probe : Bool
  outputPs4 : Bool
  vendorId : UInt16
  productId : UInt16
  led : Led → Bool
  switchProbe_output : switchProbe = true → outputSwitch = true
  ps3Probe_output : ps3Probe = true → outputPs3 = true

namespace UsbConfig

def outputCount (c : UsbConfig) : Nat :=
  c.outputSwitch.toNat + c.outputPs3.toNat + c.outputPs4.toNat

def probeTypeFirst (c : UsbConfig) : Option ProbeType :=
  if c.switchProbe then some .nx
  else if c.ps3Probe then some .ps3
  else if c.outputPs4 then some .ps4
  else none

def probeTypeNext (c : UsbConfig) : ProbeType → Option ProbeType
  | .nx => if c.ps3Probe then some .ps3 else if c.outputPs4 then some .ps4 else none
  | .ps3 => if c.outputPs4 then some .ps4 else none
  | .ps4 => none

/-- The HID of a type, or a null pointer. -/
def probeTypeHid (c : UsbConfig) : ProbeType → Option ProbeType
  | .nx => if c.outputSwitch then some .nx else none
  | .ps3 => if c.outputPs3 then some .ps3 else none
  | .ps4 => if c.outputPs4 then some .ps4 else none

end UsbConfig

def ProbeType.led : ProbeType → Led
  | .nx => .p1
  | .ps3 => .p2
  | .ps4 => .p3

/-- The milliseconds until the check. -/
def probeDelay (_ : ProbeType) : Nat := 1000

/-- A value that is no probe type is taken for the garbage of a cold boot. -/
def getBootProbe (bootProbeType : UInt64) : Option ProbeType :=
  if bootProbeType = ProbeType.nx.value then some .nx
  else if bootProbeType = ProbeType.ps3.value then some .ps3
  else if bootProbeType = ProbeType.ps4.value then some .ps4
  else none

def setBootProbe : Option ProbeType → UInt64
  | some probe => probe.value
  | none => 0

/-! ### The HIDs -/

structure NXHid where
  inputHaltCleared : Bool
  outputHaltCleared : Bool
  deriving DecidableEq, Repr

def NXHid.init : NXHid := ⟨false, false⟩

def NXHid.clearHalt (hid : NXHid) (endpoint : UInt8) : NXHid :=
  if endpoint &&& 0x80 ≠ 0 then { hid with inputHaltCleared := true }
  else { hid with outputHaltCleared := true }

def NXHid.probeResult (hid : NXHid) : Bool := hid.inputHaltCleared && hid.outputHaltCleared

structure PS3Hid where
  controllerNumber : UInt8
  deriving DecidableEq, Repr

def PS3Hid.init : PS3Hid := ⟨0xff⟩

/-- The LEDs show the number of the controller. -/
def PS3Hid.interruptOut (hid : PS3Hid) (ticksPerSec : Nat) (leds : LedStates) (buf : List UInt8) :
    PS3Hid × LedStates :=
  if buf.length = 8 then
    let controllerNumber := buf.getD 2 0
    let off := [Led.p1, .p2, .p3, .p4].map fun led => (led, LedCall.set false none)
    let on := [((1 : UInt8), Led.p1), (2, .p2), (4, .p3), (8, .p4)].filterMap fun (bit, led) =>
      if controllerNumber &&& bit ≠ 0 then some (led, LedCall.set true none) else none
    (⟨controllerNumber⟩, run (LedStates.step ticksPerSec) leds (off ++ on))
  else (hid, leds)

def PS3Hid.probeResult (hid : PS3Hid) : Bool := hid.controllerNumber ≠ 0xff

/-! ### Probing -/

/-- `hid` is the HID that USB runs, `probeCheck` the delay with which the work item of the check
is scheduled, and `rebooting` whether the one of the reboot is submitted. No code reads `tried`,
the HIDs of all calls of `usb_hid_init`, those before a reboot included. -/
structure Probe where
  hid : Option ProbeType
  nxHid : NXHid
  ps3Hid : PS3Hid
  usbIds : UInt16 × UInt16
  currentProbe : Option ProbeType
  bootProbeType : UInt64
  probeCheck : Option Nat
  rebooting : Bool
  probeLedCounter : UInt32
  leds : LedStates
  status : Bool × ProbeType
  tried : List ProbeType

/-- How a console is looked for: the inputs and the display of the board, the outputs, and
whether REBOOT_PROBE is defined. -/
structure Probing where
  board : Board
  outputs : UsbConfig
  rebootProbe : Bool

/-- What is left by a reboot, at which `display_init` and `led_init` have run. -/
def Probing.reset (c : Probing) (bootProbeType : UInt64) (tried : List ProbeType) : Probe where
  hid := none
  nxHid := NXHid.init
  ps3Hid := PS3Hid.init
  usbIds := (c.outputs.vendorId, c.outputs.productId)
  currentProbe := none
  bootProbeType := bootProbeType
  probeCheck := none
  rebooting := false
  probeLedCounter := 0
  leds := fun led => LedState.init (c.outputs.led led)
  status := (true, .nx)
  tried := tried

def ledCalls (c : Probing) (leds : LedStates) (calls : List (Led × LedCall)) : LedStates :=
  run (LedStates.step c.board.ticksPerSec) leds calls

namespace Probe

/-- DISPLAY_PROBE -/
def displayProbe (c : Probing) (s : Probe) (probing : Bool) (type : ProbeType) : Probe :=
  if c.board.display then { s with status := (probing, type) } else s

/-- `Init` and `Deinit` of the HIDs. -/
def hidInit (s : Probe) : ProbeType → Probe
  | .nx => { s with usbIds := (0x0f0d, 0x0092) }
  | .ps3 => s
  | .ps4 => { s with usbIds := (0x1532, 0x0401) }

def hidDeinit (c : Probing) (s : Probe) : ProbeType → Probe
  | .ps3 => s
  | .nx | .ps4 => { s with usbIds := (c.outputs.vendorId, c.outputs.productId) }

/-- No HID is initialised through a null pointer. -/
def usbHidInit (s : Probe) : Option ProbeType → Probe
  | some type => { s with hid := some type, tried := s.tried ++ [type] }.hidInit type
  | none => s

def usbHidUninit (c : Probing) (s : Probe) : Probe :=
  match s.hid with
  | some type => s.hidDeinit c type
  | none => s

/-- The end of `usb_probe_start`, once there is a type to probe. -/
def startHid (c : Probing) (s : Probe) (type : ProbeType) : Probe :=
  let leds := ledCalls c s.leds ([Led.p1, .p2, .p3, .p4].map fun led => (led, .set false none))
  let probeLedCounter := ((leds type.led).ledSet true none).1
  let leds := ledCalls c leds [(type.led, .set true none)]
  let s := { s with leds, probeLedCounter }.usbHidInit (c.outputs.probeTypeHid type)
  { s with probeCheck := some (probeDelay type) }

def usbProbeStart (c : Probing) (s : Probe) : Probe :=
  match s.currentProbe, c.outputs.probeTypeFirst with
  | some type, _ => s.startHid c type
  | none, some type =>
      ({ s with currentProbe := some type }.displayProbe c true type).startHid c type
  | none, none => s

def usbProbeSelected (c : Probing) (s : Probe) (type : ProbeType) : Probe :=
  let leds := ledCalls c s.leds [(type.led, .set false (some s.probeLedCounter))]
  let leds := ledCalls c leds ([Led.p1, .p2, .p3, .p4].map fun led => (led, .flash 1000 300))
  let s := { s with leds }.displayProbe c false type
  if c.rebootProbe then { s with bootProbeType := setBootProbe none } else s

def probeResult (s : Probe) : ProbeType → Bool
  | .nx => s.nxHid.probeResult
  | .ps3 => s.ps3Hid.probeResult
  | .ps4 => false

def usbProbeCheck (c : Probing) (s : Probe) : Probe :=
  match s.currentProbe with
  | none => s
  | some type =>
      if s.probeResult type then s.usbProbeSelected c type
      else
        match c.outputs.probeTypeNext type with
        | none => s.usbProbeSelected c type
        | some next =>
            if c.rebootProbe then
              { s with bootProbeType := setBootProbe (some next), rebooting := true }
            else usbProbeStart c { s.usbHidUninit c with currentProbe := some next }

end Probe

/-- The user's choice of a type by the mode switch or a button. -/
def manualOverride (board : Board) (outputs : UsbConfig) (input : RawInputState) :
    Option ProbeType :=
  if board.available .modePs3 ∧ outputs.outputPs4 ∧ input .modePs3 = false then some .ps4
  else if outputs.outputSwitch ∧ input .buttonWest then some .nx
  else if outputs.outputPs3 ∧ input .buttonNorth then some .ps3
  else if outputs.outputPs4 ∧ input .buttonR1 then some .ps4
  else none

/-- `input` is what `input_get_raw_state` gets, if it succeeds. -/
def usbProbe (c : Probing) (s : Probe) (input : Option RawInputState) : Probe :=
  let probe := if c.rebootProbe then getBootProbe s.bootProbeType else none
  match (if probe.isSome then none else input.bind (manualOverride c.board c.outputs)) with
  | some type => (s.displayProbe c false type).usbHidInit (c.outputs.probeTypeHid type)
  | none => Probe.usbProbeStart c { s with currentProbe := probe }

def usbInit (c : Probing) (s : Probe) (input : Option RawInputState) : Probe :=
  if c.outputs.outputCount > 1 then usbProbe c s input
  else if c.outputs.outputPs3 then s.usbHidInit (some .ps3)
  else if c.outputs.outputPs4 then s.usbHidInit (some .ps4)
  else if c.outputs.outputSwitch then s.usbHidInit (some .nx)
  else s

def Probing.boot (c : Probing) (bootProbeType : UInt64) (tried : List ProbeType)
    (input : Option RawInputState) : Probe :=
  usbInit c (c.reset bootProbeType tried) input

/-! ### Runs -/

inductive UsbEvent where
  | clearHalt (endpoint : UInt8)
  | interruptOut (buf : List UInt8)
  deriving DecidableEq, Repr

/-- The status callback and `int_out_ready` pass the event on to the HID. -/
def Probe.usb (c : Probing) (s : Probe) (event : UsbEvent) : Probe :=
  match s.hid, event with
  | some .nx, .clearHalt endpoint => { s with nxHid := s.nxHid.clearHalt endpoint }
  | some .ps3, .interruptOut buf =>
      let (ps3Hid, leds) := s.ps3Hid.interruptOut c.board.ticksPerSec s.leds buf
      { s with ps3Hid, leds }
  | _, _ => s

inductive ProbeEvent where
  | usb (event : UsbEvent)
  | check
  | reboot (input : Option RawInputState)

/-- The works of the check and of the reboot run only when they are submitted. -/
def Probe.step (c : Probing) (s : Probe) : ProbeEvent → Probe
  | .usb event => s.usb c event
  | .check =>
      if s.probeCheck.isSome then { s with probeCheck := none }.usbProbeCheck c else s
  | .reboot input => if s.rebooting then c.boot s.bootProbeType s.tried input else s

end PassingLink.Output
