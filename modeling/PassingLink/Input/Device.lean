import PassingLink.Input.Profile

/-! The static variables of `input.cpp`, `socd.cpp`, `profile.cpp` and `menu.cpp`. -/
namespace PassingLink.Input

inductive RadioMenu where
  | socd (x : Bool)
  | outputMode
  | profile
  deriving DecidableEq, Repr

/-- The menu items that exist, under the names of the members that hold them. -/
inductive MenuBase where
  | root | lock | unlock | output | settings | about
  | radio (menu : RadioMenu) | radioItem (parent : RadioMenu) (index : Nat)
  | socd
  | usbDelay | delay | increase | decrease | remember | forget | dfu
  | version | versionRow (row : Nat)
  deriving DecidableEq, Repr

structure MenuLocation where
  menu : MenuBase
  scrollIndex : Nat
  selectedIndex : Nat
  deriving DecidableEq, Repr

structure Menu where
  keepMenuSpot : Bool
  stack : List MenuLocation
  items : List MenuBase
  scrollIndex : Nat
  selectedIndex : Nat
  menuOpened : Bool
  deriving DecidableEq, Repr

/-- `menuOpened` is the static variable of `input_profile_parse_menu`; `menu.cpp` has one
of its own. `halted` is set by a reboot, a panic or an access out of range. -/
structure Device where
  clock : Nat
  rawState : RawInputState
  outputMode : OutputMode
  inputLocked : Bool
  inputLockTick : Nat
  buttonHistory : ButtonHistory
  socdTypeX : SOCDType
  socdTypeY : SOCDType
  activeProfileIdx : Nat
  menuOpened : Bool
  menu : Menu
  touchpadData : TouchpadData
  halted : Bool

/-- `input_get_lock_tick`, which returns the flag where the tick was meant. -/
def Device.inputGetLockTick (d : Device) : Option Nat :=
  if d.inputLocked then some d.inputLocked.toNat else none

/-- `input_set_locked`; the tick is only recorded in display builds. -/
def Device.inputSetLocked (b : Board) (locked : Bool) (tick : Nat) (d : Device) : Device :=
  { d with
    inputLocked := locked
    inputLockTick := if b.display ∧ locked ≠ d.inputLocked then tick else d.inputLockTick }

theorem inputGetLockTick_eq (d : Device) :
    d.inputGetLockTick = if d.inputLocked then some 1 else none := by
  unfold Device.inputGetLockTick
  cases d.inputLocked <;> rfl

end PassingLink.Input
