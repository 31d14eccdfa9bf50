import PassingLink.Display.Menu

/-! One poll of the inputs: `input_get_state`, `input_parse` and `input_profile_parse`. -/
namespace PassingLink.Input
open Display

/-- A poll: what the queue returned, the levels of the pins, what the local variable for
the raw inputs held before, the ticks since the last event, and the ticks that pass before
a menu action of this poll reads the clock. -/
structure Poll where
  queued : Option RawInputState
  pins : RawInputState
  uninitialised : RawInputState
  elapsed : Nat
  delay : Nat

structure PollResult where
  out : InputState
  stick : StickOutput
  calls : List MenuCall
  device : Device

/-- In the GPIO configuration only the inputs that are available are written. -/
def inputGetRawState (b : Board) (d : Device) (p : Poll) : RawInputState :=
  let direct : RawInputState :=
    match b.inputMethod with
    | .none => RawInputState.released
    | .external => d.rawState
    | .gpio => fun g => if b.available g then p.pins g else p.uninitialised g
  if b.inputQueue then p.queued.getD direct else direct

def debounceInputs (b : Board) (raw : RawInputState) (history : ButtonHistory)
    (currentTick : Nat) : RawInputState × ButtonHistory :=
  let debounced (g : Gpio) : Bool × Button :=
    inputDebounce (kMsToCycCeil64 b.cyclesPerSec 5) (raw g) (history g) currentTick
  (fun g => if b.available g then (debounced g).1 else raw g,
    fun g => if b.available g then (debounced g).2 else history g)

def inputParseMode (b : Board) (raw : RawInputState) (mode : OutputMode) : OutputMode :=
  if b.available .modeLs ∧ raw .modeLs then .modeLs
  else if b.available .modeRs ∧ raw .modeRs then .modeRs
  else if b.available .modeDpad ∧ raw .modeDpad then .modeDpad
  else if b.available .modeLs ∨ b.available .modeRs ∨ b.available .modeDpad then .modeDpad
  else mode

/-- Whether PL_GPIO_MODE_LOCK_AVAILABLE is defined; no file of the repository does so. -/
def plGpioModeLockAvailable : Bool := false

def placeStick (mode : OutputMode) (stick : StickOutput) (out : InputState) : InputState :=
  match mode with
  | .modeDpad => { out with dpad := stickStateFromXY stick.x.value stick.y.value }
  | .modeLs =>
      { out with
        leftStickX := stickScale stick.x.value
        leftStickY := stickScale stick.y.value }
  | .modeRs =>
      { out with
        rightStickX := stickScale stick.x.value
        rightStickY := stickScale stick.y.value }

def OutputButton.isLockable (btn : OutputButton) : Bool :=
  btn = .select ∨ btn = .start ∨ btn = .home

/-- `input_profile_parse` after the menu has let the poll pass. -/
def reportInputs (d : Device) (mapping : ButtonMapping) (raw : RawInputState)
    (stick : StickOutput) (out : InputState) : InputState :=
  let out := placeStick d.outputMode stick { out with button := fun btn => mapped mapping raw btn.gpio }
  if d.inputGetLockTick.isSome then
    { out with button := fun btn => if btn.isLockable then false else out.button btn }
  else out

@[simp] theorem placeStick_button (mode : OutputMode) (stick : StickOutput) (out : InputState) :
    (placeStick mode stick out).button = out.button := by
  cases mode <;> rfl

theorem reportInputs_locked {d : Device} (locked : d.inputLocked = true) (mapping : ButtonMapping)
    (raw : RawInputState) (stick : StickOutput) (out : InputState) :
    reportInputs d mapping raw stick out =
      placeStick d.outputMode stick
        { out with
          button := fun btn => if btn.isLockable then false else mapped mapping raw btn.gpio } := by
  simp only [reportInputs, inputGetLockTick_eq, locked, if_true, Option.isSome_some]
  cases d.outputMode <;> rfl

theorem reportInputs_button (d : Device) (mapping : ButtonMapping) (raw : RawInputState)
    (stick : StickOutput) (out : InputState) (btn : OutputButton) :
    (reportInputs d mapping raw stick out).button btn =
      if d.inputLocked ∧ btn.isLockable then false else mapped mapping raw btn.gpio := by
  simp only [reportInputs, inputGetLockTick_eq]
  cases d.inputLocked with
  | false => simp only [Bool.false_eq_true, if_false, false_and, Option.isSome_none, placeStick_button]
  | true => simp only [if_true, true_and, Option.isSome_some, placeStick_button]

def historyAt (history : ButtonHistory) (idx : UInt8) : Button :=
  match Gpio.all[idx.toNat]? with
  | some g => history g
  | none => Button.boot

@[simp] theorem historyAt_offset (history : ButtonHistory) (g : Gpio) :
    historyAt history g.offset = history g := by
  cases g <;> rfl

def inputProfileParse (b : Board) (d : Device) (out : InputState) (raw : RawInputState)
    (currentTick : Nat) : PollResult :=
  let profile := activeProfile b d.activeProfileIdx
  let mapping := profile.buttonMapping
  let stick := inputSocd profile d.socdTypeX d.socdTypeY raw d.buttonHistory
  let parsed : ParsedMenu :=
    if b.display ∧ mapping .buttonMenu ≠ 0xff then
      inputProfileParseMenu b d.inputGetLockTick d.menuOpened
        (historyAt d.buttonHistory (mapping .buttonMenu)) stick currentTick
    else ⟨false, d.menuOpened, []⟩
  let d := menuCalls b { d with menuOpened := parsed.menuOpened } parsed.calls
  { out := if parsed.swallowed then out else reportInputs d mapping raw stick out
    stick
    calls := parsed.calls
    device := d }

def Device.parsed (b : Board) (raw : RawInputState) (delay : Nat) (d : Device) : Device :=
  let (debounced, buttonHistory) := debounceInputs b raw d.buttonHistory d.clock
  let d' := { d with buttonHistory, clock := d.clock + delay }
  let d' := if plGpioModeLockAvailable then d'.inputSetLocked b (debounced .modeLock) d.clock else d'
  { d' with outputMode := inputParseMode b debounced d'.outputMode }

def inputParse (b : Board) (d : Device) (raw : RawInputState) (delay : Nat) : PollResult :=
  inputProfileParse b (d.parsed b raw delay) (InputState.neutral d.touchpadData)
    (debounceInputs b raw d.buttonHistory d.clock).1 d.clock

def inputGetState (b : Board) (d : Device) (p : Poll) : PollResult :=
  let d := { d with clock := d.clock + p.elapsed }
  inputParse b d (inputGetRawState b d p) p.delay

end PassingLink.Input
