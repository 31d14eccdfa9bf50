import PassingLink.Input.LockSwitch

/-! What the console sees while the menu is open. -/
namespace PassingLink.Input
open Lib

structure IsNeutral (out : InputState) : Prop where
  button : ∀ btn, out.button btn = false
  dpad : out.dpad = .neutral
  leftStick : out.leftStickX = 128 ∧ out.leftStickY = 128
  rightStick : out.rightStickX = 128 ∧ out.rightStickY = 128

/-- A poll that leaves the menu open hands a neutral state to the console. -/
def MenuIsolated (b : Board) (d : Device) (p : Poll) : Prop :=
  HasMenu b → (inputGetState b d p).device.menuOpened = true → IsNeutral (inputGetState b d p).out

/-- The menu was open, and the device has been locked from it before the menu button was
held for two seconds: the poll passes with the menu open. -/
def LeaksThrough (b : Board) (d : Device) (p : Poll) : Prop :=
  MenuHeld b d p ∧ d.menuOpened = true ∧ d.inputLocked = true ∧ ¬ HeldLong b d p

/-- No direction is held, and no button but those that a lock masks. -/
structure NothingHeld (b : Board) (d : Device) (p : Poll) : Prop where
  buttons : ∀ btn : OutputButton, btn.isLockable = false → d.mappedInput b p btn = false
  axes : (d.stick b p).x.value = 0 ∧ (d.stick b p).y.value = 0

variable {b : Board} {d : Device} {p : Poll}

theorem stickState_neutral_iff {x y : Axis} (xRange : x.InRange) (yRange : y.InRange) :
    stickStateFromXY x.value y.value = .neutral ↔ x.value = 0 ∧ y.value = 0 := by
  rcases xRange with h | h | h <;> rcases yRange with v | v | v <;> rw [h, v] <;> decide

theorem stickScale_centre_iff {axis : Axis} (range : axis.InRange) :
    stickScale axis.value = 128 ↔ axis.value = 0 := by
  rcases range with h | h | h <;> rw [h] <;> decide

theorem placeStick_neutral_iff {stick : StickOutput} (x : stick.x.InRange) (y : stick.y.InRange)
    (mode : OutputMode) (button : OutputButton → Bool) (touchpadData : TouchpadData) :
    IsNeutral (placeStick mode stick { InputState.neutral touchpadData with button }) ↔
      (∀ btn, button btn = false) ∧ stick.x.value = 0 ∧ stick.y.value = 0 := by
  cases mode with
  | modeDpad =>
      rw [← stickState_neutral_iff x y]
      constructor
      · intro neutral
        exact ⟨neutral.button, neutral.dpad⟩
      · rintro ⟨buttons, rest⟩
        exact ⟨buttons, rest, ⟨rfl, rfl⟩, ⟨rfl, rfl⟩⟩
  | modeLs =>
      rw [← stickScale_centre_iff x, ← stickScale_centre_iff y]
      constructor
      · intro neutral
        exact ⟨neutral.button, neutral.leftStick⟩
      · rintro ⟨buttons, rest⟩
        exact ⟨buttons, rfl, rest, ⟨rfl, rfl⟩⟩
  | modeRs =>
      rw [← stickScale_centre_iff x, ← stickScale_centre_iff y]
      constructor
      · intro neutral
        exact ⟨neutral.button, neutral.rightStick⟩
      · rintro ⟨buttons, rest⟩
        exact ⟨buttons, rfl, ⟨rfl, rfl⟩, rest⟩

theorem leaksThrough_iff (menu : HasMenu b) :
    MenuStays b d p ∧ ¬ MenuTakes b d p ↔ LeaksThrough b d p := by
  rw [MenuStays, if_pos menu, LeaksThrough, MenuTakes]
  by_cases held : MenuHeld b d p
  · by_cases long : HeldLong b d p
    · simp only [long, implies_true, and_true, not_true_eq_false, held, and_false]
    · cases locked : d.inputLocked with
      | false => simp only [Bool.false_eq_true, false_implies, and_true, held, not_true_eq_false,
          and_false, false_and]
      | true => simp only [held, long, Bool.true_eq_false, false_and, or_false, true_and,
          forall_const, not_false_eq_true, and_true]
  · simp only [held, false_and]

theorem masked_released_iff (input : OutputButton → Bool) :
    (∀ btn : OutputButton, (if btn.isLockable then false else input btn) = false) ↔
      ∀ btn : OutputButton, btn.isLockable = false → input btn = false := by
  apply forall_congr'
  intro btn
  cases btn.isLockable with
  | false => simp only [Bool.false_eq_true, if_false, forall_const]
  | true => simp only [if_true, Bool.true_eq_false, false_implies]

theorem leak_neutral_iff (leaks : LeaksThrough b d p) :
    IsNeutral (inputGetState b d p).out ↔ NothingHeld b d p := by
  have menu : HasMenu b := leaks.1.1
  have passed : ¬ (d.gesture b p).swallowed = true :=
    fun is => ((leaksThrough_iff menu).mpr leaks).2 (swallowed_iff.mp is)
  have locked : (d.polled b p).inputLocked = true := leaks.2.2.1
  simp only [poll_eq, if_neg passed, reportInputs_locked locked]
  rw [placeStick_neutral_iff (inputSocdParse_inRange _ _) (inputSocdParse_inRange _ _)]
  have masked := masked_released_iff (d.mappedInput b p)
  constructor
  · rintro ⟨buttons, axes⟩
    exact ⟨masked.mp buttons, axes⟩
  · rintro ⟨buttons, axes⟩
    exact ⟨masked.mpr buttons, axes⟩

theorem menuIsolated_iff :
    MenuIsolated b d p ↔ (LeaksThrough b d p → NothingHeld b d p) := by
  have opened : (inputGetState b d p).device.menuOpened = true ↔ MenuStays b d p := by
    rw [poll_menuOpened, menuOpened_iff]
  constructor
  · intro isolated leaks
    have stays := ((leaksThrough_iff leaks.1.1).mpr leaks).1
    exact (leak_neutral_iff leaks).mp (isolated leaks.1.1 (opened.mpr stays))
  · intro quiet menu stays
    by_cases takes : MenuTakes b d p
    · rw [poll_eq]
      simp only [swallowed_iff.mpr takes, if_true]
      refine ⟨?_, rfl, ⟨rfl, rfl⟩, ⟨rfl, rfl⟩⟩
      intro _
      rfl
    · have leaks := (leaksThrough_iff menu).mp ⟨opened.mp stays, takes⟩
      exact (leak_neutral_iff leaks).mpr (quiet leaks)

/-- Once the device has been locked from its menu, polls with the menu button still held
for less than two seconds are not swallowed, although the menu stays open; everything else
that is polled with an open menu is. -/
theorem menu_isolation_iff (b : Board) (es : List Event) :
    Along (Device.step b) (AtPolls (MenuIsolated b)) (Device.boot b) es ↔
      Along (Device.step b) (AtPolls fun d p => LeaksThrough b d p → NothingHeld b d p)
        (Device.boot b) es := by
  constructor
  · apply along_mono
    intro d e isolated p is running
    exact menuIsolated_iff.mp (isolated p is running)
  · apply along_mono
    intro d e quiet p is running
    exact menuIsolated_iff.mpr (quiet p is running)

/-- The menu is opened, Lock is chosen, and a button is pressed while the menu button is
still held: the press reaches the console. -/
theorem press_leaks_through :
    ¬ Along (Device.step microdash) (AtPolls (MenuIsolated microdash)) (Device.boot microdash)
      [holding [.buttonMenu] 1000, holding [.buttonMenu, .stickRight] 1000,
        holding [.buttonMenu, .buttonSouth] 1000] := by
  intro isolated
  have last := (along_iff_split _ _).mp isolated
    [holding [.buttonMenu] 1000, holding [.buttonMenu, .stickRight] 1000]
    (holding [.buttonMenu, .buttonSouth] 1000) [] rfl
  have neutral := last _ rfl (by decide) ⟨by decide, by decide⟩ (by decide)
  exact absurd (neutral.button .south) (by decide)

end PassingLink.Input
