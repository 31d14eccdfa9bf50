import PassingLink.Input.Machine

/-! The tick that guards the menu of a locked device. -/
namespace PassingLink.Input
open Lib Display

/-- The device with the tick of its latest change from unlocked to locked. -/
structure Guarded where
  device : Device
  lockedAt : Nat

def Guarded.boot (b : Board) : Guarded := ⟨Device.boot b, 0⟩

def Locks (b : Board) (d : Device) (e : Event) : Prop :=
  d.inputLocked = false ∧ (d.step b e).inputLocked = true

instance (b : Board) (d : Device) (e : Event) : Decidable (Locks b d e) :=
  inferInstanceAs (Decidable (_ ∧ _))

def Guarded.step (b : Board) (s : Guarded) (e : Event) : Guarded where
  device := s.device.step b e
  lockedAt := if Locks b s.device e then (s.device.step b e).clock else s.lockedAt

structure LockGuard (b : Board) (s : Guarded) (e : Event) : Prop where
  /-- While the device is locked, the tick of the change is what is reported. -/
  reported : (s.step b e).device.inputLocked = true →
    (s.step b e).device.inputGetLockTick = some (s.step b e).lockedAt
  /-- A poll that opens the menu of a locked device does so for a press that was accepted
  after the change and has been held for two seconds. -/
  guarded : ∀ p, e = .poll p → s.device.halted = false → s.device.inputLocked = true →
    .openMenu ∈ (inputGetState b s.device p).calls →
    s.lockedAt < (s.device.history b p .buttonMenu).tick ∧
      2000 * b.ticksPerSec ≤
        1000 * (s.device.tick p - (s.device.history b p .buttonMenu).tick)

def LocksAtOne (b : Board) (s : Guarded) (e : Event) : Prop :=
  Locks b s.device e → (s.device.step b e).clock = 1

theorem not_mem_navigate (stick : StickOutput) (currentTick : Nat) :
    .openMenu ∉ navigate stick currentTick := by
  unfold navigate
  split
  · simp only [List.mem_singleton, reduceCtorEq, not_false_eq_true]
  · split
    · simp only [List.mem_singleton, reduceCtorEq, not_false_eq_true]
    · exact List.not_mem_nil

/-- With a lock tick, the menu is only opened by a press after it, held for two seconds. -/
theorem openMenu_locked {b : Board} {lockTick : Nat} {menuOpened : Bool} {menuButton : Button}
    {stick : StickOutput} {currentTick : Nat}
    (opens : .openMenu ∈ (inputProfileParseMenu b (some lockTick) menuOpened menuButton stick
      currentTick).calls) :
    lockTick < menuButton.tick ∧
      2000 * b.ticksPerSec ≤ 1000 * (currentTick - menuButton.tick) := by
  simp only [inputProfileParseMenu] at opens
  split at opens
  · split at opens
    · simp only [List.mem_singleton, reduceCtorEq] at opens
    · exact absurd opens List.not_mem_nil
  · split at opens
    · exact absurd opens List.not_mem_nil
    · rename_i held
      split at opens
      · rename_i after
        exact ⟨after.1, kMsToTicksCeil64_le.mp (Nat.not_lt.mp held)⟩
      · exact absurd opens (not_mem_navigate stick currentTick)

theorem openMenu_of_locked {b : Board} {d : Device} {p : Poll} (locked : d.inputLocked = true)
    (opens : .openMenu ∈ (inputGetState b d p).calls) :
    1 < (d.history b p .buttonMenu).tick ∧
      2000 * b.ticksPerSec ≤ 1000 * (d.tick p - (d.history b p .buttonMenu).tick) := by
  rw [poll_eq] at opens
  simp only [Device.gesture, inputGetLockTick_eq, locked, if_true] at opens
  split at opens
  · exact openMenu_locked opens
  · exact absurd opens List.not_mem_nil

def LockedAtOne (s : Guarded) : Prop := s.device.inputLocked = true → s.lockedAt = 1

theorem lockedAtOne_step {b : Board} {s : Guarded} {e : Event} (legal : LocksAtOne b s e)
    (inv : LockedAtOne s) : LockedAtOne (s.step b e) := by
  intro locked
  simp only [Guarded.step] at locked ⊢
  by_cases changes : Locks b s.device e
  · rw [if_pos changes]
    exact legal changes
  · rw [if_neg changes]
    apply inv
    by_contra unlocked
    exact changes ⟨Bool.not_eq_true _ ▸ unlocked, locked⟩

theorem lockGuard_of_lockedAtOne {b : Board} {s : Guarded} {e : Event}
    (legal : LocksAtOne b s e) (inv : LockedAtOne s) : LockGuard b s e := by
  constructor
  · intro locked
    rw [inputGetLockTick_eq, if_pos locked, lockedAtOne_step legal inv locked]
  · rintro p rfl - locked opens
    rw [inv locked]
    exact openMenu_of_locked locked opens

/-- `input_get_lock_tick` returns the flag, that is 1, in place of the tick, so the guard
works exactly in the runs that lock the device at no tick but 1. -/
theorem lock_guard_iff (b : Board) (es : List Event) :
    Along (Guarded.step b) (LockGuard b) (Guarded.boot b) es ↔
      Along (Guarded.step b) (LocksAtOne b) (Guarded.boot b) es := by
  constructor
  · apply along_mono
    intro s e guard changes
    have locked : (s.step b e).device.inputLocked = true := changes.2
    have reported := guard.reported locked
    have recorded : (s.step b e).lockedAt = (s.device.step b e).clock := if_pos changes
    rw [inputGetLockTick_eq, if_pos locked, recorded] at reported
    exact (Option.some.inj reported).symm
  · refine along_of_legal (fun s e legal inv => lockedAtOne_step legal inv)
      (fun s e legal inv => lockGuard_of_lockedAtOne legal inv) ?_
    intro locked
    cases (boot_unlocked b).symm.trans locked

/-- Locked at tick 100, menu pressed at 1100, unlocked and locked again at 1200: two seconds
after the press the menu opens, although the press is older than the lock. -/
theorem old_press_opens_menu :
    ¬ Along (Guarded.step microdash) (LockGuard microdash) (Guarded.boot microdash)
      [.setLocked true 100, holding [.buttonMenu] 1000, .setLocked false 100, .setLocked true 0,
        holding [.buttonMenu] 66000] := by
  intro guard
  have last := (along_iff_split _ _).mp guard
    [.setLocked true 100, holding [.buttonMenu] 1000, .setLocked false 100, .setLocked true 0]
    (holding [.buttonMenu] 66000) [] rfl
  have older := (last.guarded _ rfl (by decide) (by decide) (by decide)).1
  exact absurd older (by decide)

end PassingLink.Input
