import PassingLink.Input.Gesture

/-! The tournament lock switch. -/
namespace PassingLink.Input
open Lib

structure SwitchObeyed (b : Board) (d : Device) (p : Poll) : Prop where
  inside : StoresInside b d p
  /-- With the switch on, select, start and home are released. -/
  on : d.debounced b p .modeLock = true → ∀ btn : OutputButton, btn.isLockable = true →
    (inputGetState b d p).out.button btn = false
  /-- With the switch off and no menu open, they follow their mapped inputs. -/
  off : d.debounced b p .modeLock = false → (inputGetState b d p).device.menuOpened = false →
    ∀ btn : OutputButton, btn.isLockable = true →
      (inputGetState b d p).out.button btn = d.mappedInput b p btn

def LockablesReleased (b : Board) (d : Device) (p : Poll) : Prop :=
  ∀ btn : OutputButton, btn.isLockable = true → d.mappedInput b p btn = false

/-- The poll is defined, and the switch happens to agree with the lock, the menu takes the poll,
or it makes no difference. -/
structure SwitchAgrees (b : Board) (d : Device) (p : Poll) : Prop where
  fits : SocdFits b
  on : d.debounced b p .modeLock = true →
    d.inputLocked = true ∨ MenuTakes b d p ∨ LockablesReleased b d p
  off : d.debounced b p .modeLock = false → ¬ MenuStays b d p →
    d.inputLocked = false ∨ LockablesReleased b d p

variable {b : Board} {d : Device} {p : Poll}

theorem lockables_masked_iff :
    (∀ btn : OutputButton, btn.isLockable = true →
      (inputGetState b d p).out.button btn = false) ↔
      d.inputLocked = true ∨ MenuTakes b d p ∨ LockablesReleased b d p := by
  by_cases masked : d.inputLocked = true ∨ MenuTakes b d p
  · constructor
    · intro _
      rcases masked with locked | takes
      · exact Or.inl locked
      · exact Or.inr (Or.inl takes)
    · intro _ btn lockable
      rw [poll_button, if_pos]
      rcases masked with locked | takes
      · exact Or.inr ⟨locked, lockable⟩
      · exact Or.inl takes
  · obtain ⟨unlocked, passes⟩ := not_or.mp masked
    have shown (btn : OutputButton) :
        (inputGetState b d p).out.button btn = d.mappedInput b p btn := by
      rw [poll_button, if_neg]
      rintro (takes | ⟨locked, -⟩)
      · exact passes takes
      · exact unlocked locked
    simp only [shown, unlocked, Bool.false_eq_true, passes, false_or, LockablesReleased]

theorem lockables_followed_iff (closed : ¬ MenuStays b d p) :
    (∀ btn : OutputButton, btn.isLockable = true →
      (inputGetState b d p).out.button btn = d.mappedInput b p btn) ↔
      d.inputLocked = false ∨ LockablesReleased b d p := by
  cases locked : d.inputLocked with
  | false =>
      constructor
      · intro _
        exact Or.inl rfl
      · intro _ btn _
        rw [poll_button, if_neg]
        rintro (takes | ⟨is, -⟩)
        · exact closed (takes.stays locked)
        · cases locked.symm.trans is
  | true =>
      have masked (btn : OutputButton) (lockable : btn.isLockable = true) :
          (inputGetState b d p).out.button btn = false := by
        rw [poll_button, if_pos (Or.inr ⟨locked, lockable⟩)]
      simp only [Bool.true_eq_false, false_or, LockablesReleased]
      constructor
      · intro follows btn lockable
        exact (follows btn lockable).symm.trans (masked btn lockable)
      · intro released btn lockable
        exact (masked btn lockable).trans (released btn lockable).symm

theorem switchObeyed_iff : SwitchObeyed b d p ↔ SwitchAgrees b d p := by
  have opened : (inputGetState b d p).device.menuOpened = false ↔ ¬ MenuStays b d p := by
    rw [poll_menuOpened, ← menuOpened_iff, Bool.not_eq_true]
  constructor
  · intro obeyed
    constructor
    · exact storesInside_iff.mp obeyed.inside
    · intro on
      exact lockables_masked_iff.mp (obeyed.on on)
    · intro off closed
      exact (lockables_followed_iff closed).mp (obeyed.off off (opened.mpr closed))
  · intro agrees
    constructor
    · exact storesInside_iff.mpr agrees.fits
    · intro on
      exact lockables_masked_iff.mpr (agrees.on on)
    · intro off closed
      have shut := opened.mp closed
      exact (lockables_followed_iff shut).mpr (agrees.off off shut)

/-- The build-time condition for the lock update never holds, so the switch is obeyed only
where it agrees with the lock set elsewhere or makes no difference, on a board whose polls stay
inside their buffers. -/
theorem lock_switch_iff (b : Board) (es : List Event) :
    Along (Device.step b) (AtPolls (SwitchObeyed b)) (Device.boot b) es ↔
      Along (Device.step b) (AtPolls (SwitchAgrees b)) (Device.boot b) es := by
  constructor
  · apply along_mono
    intro d e obeyed p is running
    exact switchObeyed_iff.mp (obeyed p is running)
  · apply along_mono
    intro d e agrees p is running
    exact switchObeyed_iff.mpr (agrees p is running)

theorem switch_ignored :
    ¬ Along (Device.step plE73) (AtPolls (SwitchObeyed plE73)) (Device.boot plE73)
      [holding [.modeLock, .buttonStart] 1000] := by
  rintro ⟨obeyed, -⟩
  have masked := (obeyed _ rfl (by decide)).on (by decide) .start (by decide)
  exact absurd masked (by decide)

end PassingLink.Input
