import PassingLink.Display.Screen
import PassingLink.Input.Machine
import PassingLink.Metrics.MovingAverage

/-! `display.cpp`, `menu.cpp` and `metrics.cpp` in front of the inputs: the status that is kept,
and which draws every call asks the screen for. -/
namespace PassingLink.Display
open Input Lib Metrics Output

def kTicksToUsCeil32 (ticksPerSec : Nat) (ticks : UInt32) : UInt32 :=
  UInt32.ofNat ((ticks.toNat * 1000000) ⌈/⌉ ticksPerSec)

/-- What is read before it is written: the bytes behind the font, and the buffers of the lines on
the stack, whose contents may change from draw to draw. -/
structure Memory where
  past : Nat → UInt8
  menuLine : Nat → Fin 3 → List UInt8
  statusLine : Nat → Vector UInt8 (displayWidth + 1)

/-- A call of `display_set_line` or `display_draw_logo`, or of `display_blit`. -/
inductive DisplayCall where
  | draw (d : Draw)
  | blit

def DisplayCall.drawn : DisplayCall → Option Draw
  | .draw d => some d
  | .blit => none

/-- The device with what the display knows of it, and all that has been asked of the screen. -/
structure Front where
  device : Device
  hidReportDelayTicks : UInt32
  metrics : MetricsState
  status : Status
  asked : List DisplayCall

namespace Front
variable (memory : Memory) (b : Board) (version : CString) (s : Front)

def texts : TextSources := ⟨version, s.hidReportDelayTicks⟩

def ask (calls : List DisplayCall) : Front := { s with asked := s.asked ++ calls }

/-! ### The calls of `display.cpp` -/

def displayDrawStatusLine : Front :=
  let buf := (memory.statusLine s.asked.length).toList
  s.ask [.draw (.status (some (statusLine s.status buf)))]

def displayBlit : Front := s.ask [.blit]

def displayUpdateLatency (us : UInt32) : Front :=
  { s with status := { s.status with latency := some us } }
    |>.displayDrawStatusLine memory |>.displayBlit

def displaySetLocked (locked : Bool) : Front :=
  { s with status := { s.status with locked } } |>.displayDrawStatusLine memory |>.displayBlit

def displaySetConnectionType (probing : Bool) (probeType : ProbeType) : Front :=
  { s with status := { s.status with probing, probeType } }
    |>.displayDrawStatusLine memory |>.displayBlit

/-- `display_init`, after which the menu is closed. -/
def displayInit (d : Device) (hidReportDelayTicks : UInt32) : Front :=
  let s : Front :=
    { device := menuInit b d
      hidReportDelayTicks
      metrics := metricsReset
      status := ⟨false, true, none, .nx⟩
      asked := [] }
  s.ask [.draw .logo] |>.displayDrawStatusLine memory |>.displayBlit

/-! ### The calls of `metrics.cpp`, which does nothing without a display -/

def recordInputRead (ticks : UInt64) : Front :=
  if b.display then { s with metrics := metricsRecordInputRead s.metrics ticks } else s

def recordUsbWrite (ticks : UInt64) : Front :=
  if b.display then
    let (metrics, latency) :=
      metricsRecordUsbWrite (kTicksToUsCeil32 b.ticksPerSec 1) s.metrics ticks
    let s := { s with metrics }
    match latency with
    | some us => s.displayUpdateLatency memory us
    | none => s
  else s

/-! ### The calls of `menu.cpp` -/

/-- No row past the items is read as long as the menu is windowed. -/
def menuDraw : Front :=
  match Display.menuDraw b s.device (s.texts version) (memory.menuLine s.asked.length) with
  | some draws => s.ask (draws.map .draw) |>.displayBlit
  | none => s

/-- The display's part of `input_set_locked`. -/
def showLocked (locked : Bool) : Front :=
  if b.display ∧ locked ≠ s.device.inputLocked then s.displaySetLocked memory locked else s

def usbDelayIncrease : Front :=
  if kTicksToUsCeil32 b.ticksPerSec s.hidReportDelayTicks > 1000 then s
  else { s with hidReportDelayTicks := s.hidReportDelayTicks + 1, metrics := metricsReset }

def usbDelayDecrease : Front :=
  if s.hidReportDelayTicks = 0 then s
  else { s with hidReportDelayTicks := s.hidReportDelayTicks - 1, metrics := metricsReset }

/-- What `on_enter` does besides what it does to the device. -/
def onEnter : MenuBase → Front
  | .lock => s.showLocked memory b true
  | .unlock => s.showLocked memory b false
  | .increase => s.usbDelayIncrease b
  | .decrease => s.usbDelayDecrease
  | _ => s

/-- Neither `mcuboot_enter` nor a read past the items returns to the draw. -/
def moved (call : MenuCall) : Front :=
  let s := { s with device := menuCall b s.device call }
  if s.device.halted then s else s.menuDraw memory b version

def call : MenuCall → Front
  | .openMenu => s.moved memory b version .openMenu
  | .closeMenu => s.moved memory b version .closeMenu
  | .input .up =>
      if s.device.menu.selectedIndex ≠ 0 then s.moved memory b version (.input .up) else s
  | .input .down =>
      if s.device.menu.selectedIndex + 1 < s.device.menu.items.length then
        s.moved memory b version (.input .down)
      else s
  | .input .left =>
      if s.device.menu.stack.length ≠ 1 then s.moved memory b version (.input .left) else s
  | .input .right =>
      match s.device.menu.items[s.device.menu.selectedIndex]? with
      | some item => (s.onEnter memory b item).moved memory b version (.input .right)
      | none => s.moved memory b version (.input .right)

/-! ### Runs -/

/-- The device when a poll comes to its calls into the menu. -/
def polled (p : Poll) : Front :=
  { s with
    device := { s.device.polled b p with menuOpened := (s.device.gesture b p).menuOpened } }

end Front

inductive FrontEvent where
  | input (e : Input.Event)
  /-- The shell command `menu`. -/
  | menu (call : MenuCall)
  | inputRead (ticks : UInt64)
  | usbWrite (ticks : UInt64)
  | connection (probing : Bool) (probeType : ProbeType)
  | touchpad (data : TouchpadData)
  /-- `usb_hid_uninit`, as far as the display is concerned. -/
  | uninit

section Runs
variable (memory : Memory) (b : Board) (version : CString)

def Front.input (s : Front) : Input.Event → Front
  | .poll p => (s.device.gesture b p).calls.foldl (Front.call memory b version) (s.polled b p)
  | .setLocked locked elapsed =>
      { s.showLocked memory b locked with device := s.device.step b (.setLocked locked elapsed) }
  | .setRawState raw => { s with device := s.device.step b (.setRawState raw) }

def Front.step (s : Front) (e : FrontEvent) : Front :=
  if s.device.halted then s
  else
    match e with
    | .input e => s.input memory b version e
    | .menu call => s.call memory b version call
    | .inputRead ticks => s.recordInputRead b ticks
    | .usbWrite ticks => s.recordUsbWrite memory b ticks
    | .connection probing probeType => s.displaySetConnectionType memory probing probeType
    | .touchpad data => { s with device := { s.device with touchpadData := data } }
    | .uninit => { s with metrics := metricsReset }

end Runs

/-! ### The front leads the device as it is led without it -/

namespace Front
variable {memory : Memory} {b : Board} {version : CString} {s : Front}

@[simp] theorem menuDraw_device : (s.menuDraw memory b version).device = s.device := by
  unfold menuDraw
  split <;> rfl

@[simp] theorem showLocked_device (locked : Bool) :
    (s.showLocked memory b locked).device = s.device := by
  unfold showLocked
  split <;> rfl

@[simp] theorem onEnter_device (item : MenuBase) :
    (s.onEnter memory b item).device = s.device := by
  unfold onEnter
  split
  · exact showLocked_device true
  · exact showLocked_device false
  · unfold usbDelayIncrease
    split <;> rfl
  · unfold usbDelayDecrease
    split <;> rfl
  · rfl

@[simp] theorem moved_device (call : MenuCall) :
    (s.moved memory b version call).device = menuCall b s.device call := by
  simp only [moved]
  split
  · rfl
  · exact menuDraw_device

@[simp] theorem call_device (call : MenuCall) :
    (s.call memory b version call).device = menuCall b s.device call := by
  cases call with
  | openMenu => exact moved_device .openMenu
  | closeMenu => exact moved_device .closeMenu
  | input input =>
      cases input with
      | up =>
          simp only [call]
          split
          · exact moved_device (.input .up)
          · rename_i first
            simp only [menuCall, menuInput, if_neg first]
      | down =>
          simp only [call]
          split
          · exact moved_device (.input .down)
          · rename_i last
            simp only [menuCall, menuInput, if_neg last]
      | left =>
          simp only [call]
          split
          · exact moved_device (.input .left)
          · rename_i home
            simp only [menuCall, menuInput, if_neg home]
      | right =>
          simp only [call]
          split
          · rw [moved_device, onEnter_device]
          · exact moved_device (.input .right)

theorem calls_device (calls : List MenuCall) (s : Front) :
    (calls.foldl (Front.call memory b version) s).device = menuCalls b s.device calls :=
  (List.foldl_hom Front.device fun _ call => (call_device call).symm).symm

theorem step_input_device (s : Front) (e : Input.Event) :
    (s.step memory b version (.input e)).device = s.device.step b e := by
  cases halted : s.device.halted with
  | true =>
      rw [step_halted halted]
      simp only [step, halted, if_true]
  | false =>
      simp only [step, halted, Bool.false_eq_true, if_false, input]
      cases e with
      | poll p => rw [step_poll halted, poll_eq, calls_device]; rfl
      | setLocked locked elapsed => rfl
      | setRawState raw => rfl

end Front

end PassingLink.Display
