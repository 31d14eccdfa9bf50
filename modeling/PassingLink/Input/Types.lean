import Mathlib.Algebra.Order.Floor.Div

/-! The data model of the input code: raw inputs, the state handed to the console, and
what a board is built with. -/
namespace PassingLink.Input

/-- The names of `PL_GPIOS`. -/
inductive Gpio where
  | stickUp | stickDown | stickRight | stickLeft
  | buttonNorth | buttonEast | buttonSouth | buttonWest
  | buttonL1 | buttonL2 | buttonL3 | buttonR1 | buttonR2 | buttonR3
  | buttonStart | buttonSelect | buttonHome | buttonTouchpad | buttonMenu | buttonW
  | buttonThumbLeft | buttonThumbRight
  | modeLock | modePs3 | modeLs | modeRs | modeDpad
  deriving DecidableEq, Repr

def Gpio.all : List Gpio :=
  [.stickUp, .stickDown, .stickRight, .stickLeft, .buttonNorth, .buttonEast, .buttonSouth,
    .buttonWest, .buttonL1, .buttonL2, .buttonL3, .buttonR1, .buttonR2, .buttonR3, .buttonStart,
    .buttonSelect, .buttonHome, .buttonTouchpad, .buttonMenu, .buttonW, .buttonThumbLeft,
    .buttonThumbRight, .modeLock, .modePs3, .modeLs, .modeRs, .modeDpad]

theorem Gpio.mem_all (g : Gpio) : g ∈ Gpio.all := by
  cases g <;> decide

/-- The offset of the input in `RawInputState`, counted in bits. -/
def Gpio.offset (g : Gpio) : UInt8 := UInt8.ofNat (Gpio.all.idxOf g)

abbrev RawInputState := Gpio → Bool

def RawInputState.released : RawInputState := fun _ => false

/-- The bits after the 27 inputs are padding. -/
def getBit (raw : RawInputState) (idx : UInt8) : Bool :=
  match Gpio.all[idx.toNat]? with
  | some g => raw g
  | none => false

@[simp] theorem getBit_offset (raw : RawInputState) (g : Gpio) : getBit raw g.offset = raw g := by
  cases g <;> rfl

theorem offset_available (g : Gpio) : g.offset ≠ 0xff := by
  cases g <;> decide

inductive StickState where
  | neutral | north | northEast | east | southEast | south | southWest | west | northWest
  deriving DecidableEq, Repr

inductive OutputButton where
  | north | east | south | west | l1 | l2 | l3 | r1 | r2 | r3 | select | start | home | touchpad
  deriving DecidableEq, Repr

def OutputButton.gpio : OutputButton → Gpio
  | .north => .buttonNorth
  | .east => .buttonEast
  | .south => .buttonSouth
  | .west => .buttonWest
  | .l1 => .buttonL1
  | .l2 => .buttonL2
  | .l3 => .buttonL3
  | .r1 => .buttonR1
  | .r2 => .buttonR2
  | .r3 => .buttonR3
  | .select => .buttonSelect
  | .start => .buttonStart
  | .home => .buttonHome
  | .touchpad => .buttonTouchpad

structure TouchpadXY where
  counter : UInt8
  unpressed : Bool
  data : List UInt8
  deriving DecidableEq, Repr

structure TouchpadData where
  p1 : TouchpadXY
  p2 : TouchpadXY
  deriving DecidableEq, Repr

structure InputState where
  leftStickX : UInt8
  leftStickY : UInt8
  rightStickX : UInt8
  rightStickY : UInt8
  dpad : StickState
  button : OutputButton → Bool
  touchpadData : TouchpadData

def InputState.neutral (touchpadData : TouchpadData) : InputState where
  leftStickX := 128
  leftStickY := 128
  rightStickX := 128
  rightStickY := 128
  dpad := .neutral
  button := fun _ => false
  touchpadData := touchpadData

inductive OutputMode where
  | modeDpad
  | modeLs
  | modeRs
  deriving DecidableEq, Repr

inductive InputMethod where
  | none
  | gpio
  | external
  deriving DecidableEq, Repr

/-- What the firmware is built for: the inputs that the devicetree has under `gpio_keys`,
the options, and the rates of the cycle counter and of `k_uptime_ticks`. -/
structure Board where
  available : Gpio → Bool
  inputMethod : InputMethod
  inputQueue : Bool
  display : Bool
  microdash : Bool
  cyclesPerSec : Nat
  ticksPerSec : Nat

def microdash : Board where
  available := fun g =>
    g ∈ [.stickUp, .stickDown, .stickRight, .stickLeft, .buttonNorth, .buttonEast, .buttonSouth,
      .buttonWest, .buttonL1, .buttonL2, .buttonR1, .buttonR2, .buttonStart, .buttonHome,
      .buttonMenu, .buttonW, .buttonThumbLeft, .buttonThumbRight]
  inputMethod := .gpio
  inputQueue := true
  display := true
  microdash := true
  cyclesPerSec := 32768
  ticksPerSec := 32768

def plE73 : Board where
  available := fun g =>
    g ∉ [.buttonMenu, .buttonW, .buttonThumbLeft, .buttonThumbRight, .modeDpad]
  inputMethod := .gpio
  inputQueue := true
  display := false
  microdash := false
  cyclesPerSec := 32768
  ticksPerSec := 32768

def plDongle : Board where
  available := fun _ => false
  inputMethod := .external
  inputQueue := true
  display := true
  microdash := false
  cyclesPerSec := 32768
  ticksPerSec := 32768

def kMsToCycCeil64 (cyclesPerSec ms : Nat) : Nat := (ms * cyclesPerSec) ⌈/⌉ 1000

def kMsToTicksCeil64 (ticksPerSec ms : Nat) : Nat := (ms * ticksPerSec) ⌈/⌉ 1000

def kUsToTicksCeil64 (ticksPerSec us : Nat) : Nat := (us * ticksPerSec) ⌈/⌉ 1000000

/-- A number of ticks reaches the rounded count exactly when it lasts that long. -/
theorem kMsToTicksCeil64_le {ticksPerSec ms n : Nat} :
    kMsToTicksCeil64 ticksPerSec ms ≤ n ↔ ms * ticksPerSec ≤ 1000 * n :=
  ceilDiv_le_iff_le_mul (by decide)

end PassingLink.Input
