import PassingLink.Lib.Runs
import PassingLink.Input.Types

/-! `input_debounce` and what it guarantees about the times of accepted transitions. -/
namespace PassingLink.Input
open Lib

/-- `ButtonHistory::Button`. -/
structure Button where
  state : Bool
  tick : Nat
  deriving DecidableEq, Repr

def Button.boot : Button := ⟨false, 0⟩

/-- The value to use and the history afterwards. The recorded tick is never in the
future, so the difference does not wrap. -/
def inputDebounce (transitionTime : Nat) (currentState : Bool) (history : Button)
    (currentTick : Nat) : Bool × Button :=
  if currentState = history.state then (currentState, history)
  else if currentTick - history.tick < transitionTime then (!currentState, history)
  else (currentState, ⟨currentState, currentTick⟩)

theorem inputDebounce_value (transitionTime : Nat) (currentState : Bool) (history : Button)
    (currentTick : Nat) :
    (inputDebounce transitionTime currentState history currentTick).1 =
      (inputDebounce transitionTime currentState history currentTick).2.state := by
  unfold inputDebounce
  split
  · assumption
  · rename_i differs
    split
    · exact (Bool.eq_not.mpr fun same => differs same.symm).symm
    · rfl

/-- Either nothing is recorded, or the other state is, at the current tick. -/
theorem inputDebounce_cases (transitionTime : Nat) (currentState : Bool) (history : Button)
    (currentTick : Nat) :
    (inputDebounce transitionTime currentState history currentTick).2 = history ∧
        (currentState = history.state ∨ currentTick - history.tick < transitionTime) ∨
      (inputDebounce transitionTime currentState history currentTick).2 =
          ⟨currentState, currentTick⟩ ∧
        currentState ≠ history.state ∧ transitionTime ≤ currentTick - history.tick := by
  unfold inputDebounce
  split
  · exact Or.inl ⟨rfl, Or.inl ‹_›⟩
  · split
    · exact Or.inl ⟨rfl, Or.inr ‹_›⟩
    · exact Or.inr ⟨rfl, ‹_›, Nat.not_lt.mp ‹_›⟩

/-! ### One button over a run of samples -/

structure LevelSample where
  level : Bool
  elapsed : Nat

structure Watched where
  button : Button
  clock : Nat
  lastAccepted : Option Nat

def Watched.boot : Watched := ⟨Button.boot, 0, none⟩

def Watched.now (w : Watched) (s : LevelSample) : Nat := w.clock + s.elapsed

def Watched.step (cyclesPerSec : Nat) (w : Watched) (s : LevelSample) : Watched :=
  let button := (inputDebounce (kMsToCycCeil64 cyclesPerSec 5) s.level w.button (w.now s)).2
  { button
    clock := w.now s
    lastAccepted := if button.state = w.button.state then w.lastAccepted else some (w.now s) }

/-- What the step does to the time of the last accepted transition in real time. -/
structure Timely (cyclesPerSec ticksPerSec : Nat) (w : Watched) (s : LevelSample) : Prop where
  /-- A transition is accepted at least 5 ms after the one before. -/
  apart : (w.step cyclesPerSec s).button.state ≠ w.button.state →
    ∀ last, w.lastAccepted = some last → 5 * ticksPerSec ≤ 1000 * (w.now s - last)
  /-- From 5 ms after it on, a level that differs from the recorded state is accepted. -/
  prompt : ∀ last, w.lastAccepted = some last → 5 * ticksPerSec ≤ 1000 * (w.now s - last) →
    (w.step cyclesPerSec s).button.state = s.level

def Watched.Recorded (w : Watched) : Prop :=
  ∀ last, w.lastAccepted = some last → w.button.tick = last

theorem recorded_boot : Watched.boot.Recorded := by
  rintro last ⟨⟩

theorem recorded_step (cyclesPerSec : Nat) (w : Watched) (s : LevelSample) (recorded : w.Recorded) :
    (w.step cyclesPerSec s).Recorded := by
  intro last accepted
  simp only [Watched.step] at accepted ⊢
  rcases inputDebounce_cases (kMsToCycCeil64 cyclesPerSec 5) s.level w.button (w.now s) with
    ⟨same, -⟩ | ⟨changed, differs, -⟩
  · rw [same] at accepted ⊢
    rw [if_pos rfl] at accepted
    exact recorded last accepted
  · rw [changed] at accepted ⊢
    rw [if_neg differs] at accepted
    exact Option.some.inj accepted

theorem timely_of_recorded {cyclesPerSec ticksPerSec : Nat}
    (same : kMsToCycCeil64 cyclesPerSec 5 = kMsToTicksCeil64 ticksPerSec 5) {w : Watched}
    (recorded : w.Recorded) (s : LevelSample) : Timely cyclesPerSec ticksPerSec w s := by
  have threshold (n : Nat) : kMsToCycCeil64 cyclesPerSec 5 ≤ n ↔ 5 * ticksPerSec ≤ 1000 * n := by
    rw [same]
    exact kMsToTicksCeil64_le
  have cases := inputDebounce_cases (kMsToCycCeil64 cyclesPerSec 5) s.level w.button (w.now s)
  constructor
  · intro accepted last was
    rcases cases with ⟨unchanged, -⟩ | ⟨-, -, waited⟩
    · exact absurd (congrArg Button.state unchanged) accepted
    · rw [← recorded last was]
      exact (threshold _).mp waited
  · intro last was waited
    rw [← recorded last was] at waited
    rcases cases with ⟨unchanged, equal | early⟩ | ⟨changed, -, -⟩
    · exact (congrArg Button.state unchanged).trans equal.symm
    · exact absurd ((threshold _).mpr waited) (Nat.not_le.mpr early)
    · exact congrArg Button.state changed

def pressAndRelease (cyclesPerSec pause : Nat) : List LevelSample :=
  [⟨true, kMsToCycCeil64 cyclesPerSec 5⟩, ⟨false, pause⟩]

theorem press_accepted (cyclesPerSec : Nat) :
    Watched.boot.step cyclesPerSec ⟨true, kMsToCycCeil64 cyclesPerSec 5⟩ =
      ⟨⟨true, kMsToCycCeil64 cyclesPerSec 5⟩, kMsToCycCeil64 cyclesPerSec 5,
        some (kMsToCycCeil64 cyclesPerSec 5)⟩ := by
  simp only [Watched.step, Watched.boot, Button.boot, Watched.now, inputDebounce, Nat.zero_add,
    Nat.sub_zero, Nat.lt_irrefl, if_false, Bool.true_eq_false]

theorem release_timely {cyclesPerSec ticksPerSec pause : Nat}
    (timely : Along (Watched.step cyclesPerSec) (Timely cyclesPerSec ticksPerSec) Watched.boot
      (pressAndRelease cyclesPerSec pause)) :
    kMsToCycCeil64 cyclesPerSec 5 ≤ pause ↔ kMsToTicksCeil64 ticksPerSec 5 ≤ pause := by
  rw [kMsToTicksCeil64_le]
  obtain ⟨-, ⟨apart, prompt⟩, -⟩ := timely
  rw [press_accepted] at apart prompt
  have elapsed : kMsToCycCeil64 cyclesPerSec 5 + pause - kMsToCycCeil64 cyclesPerSec 5 = pause := by
    omega
  simp only [Watched.step, Watched.now, inputDebounce, elapsed, Bool.false_eq_true, if_false,
    Option.some.injEq, forall_eq'] at apart prompt
  constructor
  · intro late
    apply apart
    rw [if_neg (Nat.not_lt.mpr late)]
    exact Bool.false_ne_true
  · intro waited
    apply Nat.not_lt.mp
    intro early
    have accepted := prompt waited
    rw [if_pos early] at accepted
    cases accepted

/-- The debouncer keeps to real time exactly on the clocks whose cycles and ticks give the
same threshold: it compares a number of ticks with a number of cycles. -/
theorem debounce_timely_iff (cyclesPerSec ticksPerSec : Nat) :
    (∀ samples, Along (Watched.step cyclesPerSec) (Timely cyclesPerSec ticksPerSec) Watched.boot
      samples) ↔ kMsToCycCeil64 cyclesPerSec 5 = kMsToTicksCeil64 ticksPerSec 5 := by
  constructor
  · intro timely
    have agree (pause : Nat) := release_timely (timely (pressAndRelease cyclesPerSec pause))
    exact Nat.le_antisymm ((agree _).mpr (Nat.le_refl _)) ((agree _).mp (Nat.le_refl _))
  · intro same samples
    exact along_of_invariant (recorded_step cyclesPerSec)
      (fun w s recorded => timely_of_recorded same recorded s) recorded_boot samples

/-- With 72 MHz cycles and 10 kHz ticks, a release 5 ms after its press is not accepted. -/
theorem bluepill_release_held_back :
    ¬ Along (Watched.step 72000000) (Timely 72000000 10000) Watched.boot
      [⟨true, 360000⟩, ⟨false, 50⟩] := by
  rintro ⟨-, release, -⟩
  have accepted := release.prompt 360000 rfl (by decide)
  exact absurd accepted (by decide)

end PassingLink.Input
