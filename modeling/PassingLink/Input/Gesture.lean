import PassingLink.Input.Machine

/-! What the menu makes of a poll, in terms of the lock, the menu button and its time. -/
namespace PassingLink.Input
open Lib Display

section Gesture
variable (b : Board) (d : Device) (p : Poll)

def MenuHeld : Prop := HasMenu b ∧ (d.history b p .buttonMenu).state = true

def HeldLong : Prop :=
  kMsToTicksCeil64 b.ticksPerSec 2000 ≤ d.tick p - (d.history b p .buttonMenu).tick

instance : Decidable (MenuHeld b d p) := inferInstanceAs (Decidable (_ ∧ _))

instance : Decidable (HeldLong b d p) := inferInstanceAs (Decidable (_ ≤ _))

def MenuTakes : Prop := MenuHeld b d p ∧ (d.inputLocked = true → HeldLong b d p)

instance : Decidable (MenuTakes b d p) := inferInstanceAs (Decidable (_ ∧ (_ → _)))

def MenuStays : Prop :=
  if HasMenu b then
    MenuHeld b d p ∧
      (d.menuOpened = true ∨ d.inputLocked = false ∨
        HeldLong b d p ∧ 1 < (d.history b p .buttonMenu).tick)
  else d.menuOpened = true

end Gesture

variable {b : Board} {d : Device} {p : Poll}

theorem gesture_menu (menu : HasMenu b) :
    d.gesture b p = inputProfileParseMenu b (if d.inputLocked then some 1 else none) d.menuOpened
      (d.history b p .buttonMenu) (d.stick b p) (d.tick p) := by
  rw [Device.gesture, if_pos menu, inputGetLockTick_eq]

/-- Both results of the gesture at once, case by case of the source. -/
theorem gesture_iff :
    ((d.gesture b p).swallowed = true ↔ MenuTakes b d p) ∧
      ((d.gesture b p).menuOpened = true ↔ MenuStays b d p) := by
  by_cases menu : HasMenu b
  · rw [gesture_menu menu]
    simp only [MenuTakes, MenuStays, MenuHeld, menu, true_and, if_true]
    cases pressed : (d.history b p .buttonMenu).state with
    | false =>
        simp only [parseMenu_released pressed, Bool.false_eq_true, false_and, and_self]
    | true =>
        cases locked : d.inputLocked with
        | false =>
            simp only [Bool.false_eq_true, if_false, parseMenu_unlocked pressed, false_implies,
              and_self, true_or, or_true]
        | true =>
            by_cases held : HeldLong b d p
            · simp only [if_true, parseMenu_held pressed 1 held, held, true_and, implies_true]
              cases d.menuOpened with
              | false =>
                  by_cases later : 1 < (d.history b p .buttonMenu).tick
                  · simp only [later, and_self, if_true, or_true]
                  · simp only [later, and_true, if_false, Bool.false_eq_true, Bool.true_eq_false,
                      or_self]
              | true =>
                  simp only [Bool.true_eq_false, and_false, if_false, true_or, and_self]
            · simp only [if_true, parseMenu_early pressed 1 (Nat.not_le.mp held), held,
                Bool.false_eq_true, Bool.true_eq_false, forall_const, and_false, false_and,
                or_false, true_and, and_self]
  · rw [gesture_absent menu]
    simp only [MenuTakes, MenuStays, MenuHeld, menu, false_and, Bool.false_eq_true, if_false,
      and_self]

theorem swallowed_iff : (d.gesture b p).swallowed = true ↔ MenuTakes b d p := gesture_iff.1

theorem menuOpened_iff : (d.gesture b p).menuOpened = true ↔ MenuStays b d p := gesture_iff.2

theorem MenuTakes.stays (takes : MenuTakes b d p) (unlocked : d.inputLocked = false) :
    MenuStays b d p := by
  rw [MenuStays, if_pos takes.1.1]
  exact ⟨takes.1, Or.inr (Or.inl unlocked)⟩

/-- The input that a button of the output is mapped to, after debouncing. -/
def Device.mappedInput (b : Board) (d : Device) (p : Poll) (btn : OutputButton) : Bool :=
  mapped (d.profile b).buttonMapping (d.debounced b p) btn.gpio

theorem poll_button (btn : OutputButton) :
    (inputGetState b d p).out.button btn =
      if MenuTakes b d p ∨ d.inputLocked = true ∧ btn.isLockable = true then false
      else d.mappedInput b p btn := by
  rw [poll_eq]
  by_cases takes : MenuTakes b d p
  · simp only [swallowed_iff.mpr takes, if_true, takes, true_or]
    rfl
  · have passed : ¬ (d.gesture b p).swallowed = true := fun is => takes (swallowed_iff.mp is)
    simp only [if_neg passed, reportInputs_button, takes, false_or]
    rfl

end PassingLink.Input
