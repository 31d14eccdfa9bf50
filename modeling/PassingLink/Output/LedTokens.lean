import Mathlib.Data.List.Induction
import PassingLink.Output.Led

/-! The counter that `led_set` returns, with which a later call undoes the setting only if
nobody else has set the LED in between. -/
namespace PassingLink.Output
open Lib

inductive Led where
  | front
  | p1
  | p2
  | p3
  | p4
  deriving DecidableEq, Repr

abbrev LedStates := Led → LedState

/-- A call for one LED, or the expiry of its timer. -/
def LedStates.step (ticksPerSec : Nat) (states : LedStates) (call : Led × LedCall) : LedStates :=
  Function.update states call.1 ((states call.1).step ticksPerSec call.2)

def ledStates (ticksPerSec : Nat) (present : Led → Bool) (calls : List (Led × LedCall)) :
    LedStates :=
  run (LedStates.step ticksPerSec) (fun led => LedState.init (present led)) calls

def LedCall.sets : LedCall → Bool
  | .set _ _ => true
  | _ => false

def LedCall.unconditional : LedCall → Bool
  | .set _ none => true
  | _ => false

def settings (calls : List (Led × LedCall)) : Nat := calls.countP fun call => call.2.sets

def unconditionals (led : Led) (calls : List (Led × LedCall)) : Nat :=
  calls.countP fun call => call.1 = led && call.2.unconditional

section Counter
variable {ticksPerSec : Nat}

theorem setLevel_counter (state : LedState) (on : Bool) :
    (state.setLevel on).counter = state.counter := by
  unfold LedState.setLevel
  split <;> rfl

theorem ledToggle_counter (state : LedState) : state.ledToggle.counter = state.counter := by
  unfold LedState.ledToggle
  split <;> rfl

theorem ledScheduleUpdate_counter (state : LedState) :
    state.ledScheduleUpdate.counter = state.counter := by
  unfold LedState.ledScheduleUpdate
  split <;> rfl

theorem ledUpdate_counter (state : LedState) : state.ledUpdate.counter = state.counter := by
  unfold LedState.ledUpdate
  split
  · split
    · exact setLevel_counter state state.on
    · rw [ledScheduleUpdate_counter]
      exact ledToggle_counter state
  · exact setLevel_counter state state.on

theorem ledSet_returned (state : LedState) (value : Bool) :
    (state.ledSet value none).1 = state.counter + 1 := by
  have accepted : ¬ state.accepts none = false := Bool.true_eq_false.mp
  have kept (other : LedState) :
      (if other.flashing then other else other.ledUpdate).counter = other.counter := by
    split
    · rfl
    · exact ledUpdate_counter other
  rw [LedState.ledSet, if_neg accepted]
  exact congrArg (· + 1) (kept { state with on := value })

theorem step_counter (state : LedState) (call : LedCall) :
    (state.step ticksPerSec call).counter =
      if call.unconditional then state.counter + 1 else state.counter := by
  cases call with
  | set value expected =>
      rw [LedState.step]
      cases accepted : state.accepts expected with
      | false =>
          cases expected with
          | none => exact absurd accepted Bool.true_eq_false.mp
          | some expected =>
              rw [ledSet_refused accepted]
              rfl
      | true =>
          rw [ledSet_accepted value accepted]
          cases expected <;> rfl
  | flash durationMs intervalMs =>
      rw [LedState.step, LedState.ledFlash, ledScheduleUpdate_counter]
      rfl
  | expire =>
      rw [LedState.step]
      split
      · exact ledUpdate_counter _
      · rfl

theorem ledStates_concat (present : Led → Bool) (calls : List (Led × LedCall))
    (call : Led × LedCall) :
    ledStates ticksPerSec present (calls ++ [call]) =
      (ledStates ticksPerSec present calls).step ticksPerSec call := by
  rw [ledStates, run_append]
  rfl

theorem unconditionals_concat (led : Led) (calls : List (Led × LedCall)) (call : Led × LedCall) :
    unconditionals led (calls ++ [call]) =
      unconditionals led calls + if call.1 = led ∧ call.2.unconditional = true then 1 else 0 := by
  unfold unconditionals
  rw [List.countP_append, List.countP_singleton]
  simp only [Bool.and_eq_true, decide_eq_true_eq]

/-- The counter counts the unconditional calls on its own LED. -/
theorem ledStates_counter (present : Led → Bool) (calls : List (Led × LedCall)) (led : Led) :
    (ledStates ticksPerSec present calls led).counter = UInt32.ofNat (unconditionals led calls) := by
  induction calls using List.reverseRecOn with
  | nil => rfl
  | append_singleton calls call ih =>
      rw [ledStates_concat, LedStates.step, unconditionals_concat]
      by_cases mine : call.1 = led
      · rw [mine, Function.update_self, step_counter, ih]
        by_cases counts : call.2.unconditional = true
        · rw [if_pos counts, if_pos ⟨rfl, counts⟩, UInt32.ofNat_add]
          rfl
        · rw [if_neg counts, if_neg fun both => counts both.2, Nat.add_zero]
      · rw [Function.update_of_ne (Ne.symm mine), ih, if_neg fun both => mine both.1, Nat.add_zero]

theorem unconditionals_le (led : Led) (calls : List (Led × LedCall)) :
    unconditionals led calls ≤ settings calls := by
  apply List.countP_mono_left
  rintro ⟨other, call⟩ - counts
  rw [Bool.and_eq_true] at counts
  cases call with
  | set value expected => rfl
  | flash durationMs intervalMs => exact absurd counts.2 Bool.false_ne_true
  | expire => exact absurd counts.2 Bool.false_ne_true

theorem unconditionals_append (led : Led) (before after : List (Led × LedCall)) :
    unconditionals led (before ++ after) = unconditionals led before + unconditionals led after :=
  List.countP_append

end Counter

/-- The counter that an unconditional call has returned lets a later call through exactly as
long as no other unconditional call has come for the LED; after that the call does nothing. -/
theorem undo_token (ticksPerSec : Nat) (present : Led → Bool) (before between : List (Led × LedCall))
    (led : Led) (value undo : Bool) (token : UInt32)
    (returned : ((ledStates ticksPerSec present before led).ledSet value none).1 = token)
    (few : settings (before ++ (led, .set value none) :: between ++
      [(led, .set undo (some token))]) < 2 ^ 32) :
    ((ledStates ticksPerSec present (before ++ (led, .set value none) :: between) led).accepts
        (some token) = true ↔ unconditionals led between = 0) ∧
      (unconditionals led between = 0 →
        (ledStates ticksPerSec present (before ++ (led, .set value none) :: between ++
          [(led, .set undo (some token))]) led).on = undo) ∧
      (unconditionals led between ≠ 0 →
        ledStates ticksPerSec present (before ++ (led, .set value none) :: between ++
            [(led, .set undo (some token))]) led =
          ledStates ticksPerSec present (before ++ (led, .set value none) :: between) led) := by
  have issued : token = UInt32.ofNat (unconditionals led before + 1) := by
    rw [← returned, ledSet_returned, ledStates_counter, UInt32.ofNat_add]
    rfl
  have own : unconditionals led [(led, .set value none)] = 1 :=
    List.countP_cons_of_pos (by rw [Bool.and_eq_true]; exact ⟨decide_eq_true rfl, rfl⟩)
  have count : unconditionals led (before ++ (led, .set value none) :: between) =
      unconditionals led before + 1 + unconditionals led between := by
    rw [List.append_cons, unconditionals_append, unconditionals_append, own]
  have bound : unconditionals led before + 1 + unconditionals led between < 2 ^ 32 := by
    rw [← count]
    apply Nat.lt_of_le_of_lt (unconditionals_le led _)
    apply Nat.lt_of_le_of_lt ?_ few
    exact (List.sublist_append_left _ _).countP_le
  have accepts : (ledStates ticksPerSec present (before ++ (led, .set value none) :: between)
      led).accepts (some token) = true ↔ unconditionals led between = 0 := by
    rw [LedState.accepts, decide_eq_true_iff, ledStates_counter, issued, count,
      ← UInt32.toNat_inj, UInt32.toNat_ofNat', UInt32.toNat_ofNat', Nat.mod_eq_of_lt bound,
      Nat.mod_eq_of_lt (by omega)]
    omega
  refine ⟨accepts, ?_, ?_⟩
  · intro unset
    rw [ledStates_concat, LedStates.step, Function.update_self, LedState.step,
      ledSet_accepted undo (accepts.mpr unset)]
  · intro set
    have refused := Bool.not_eq_true _ ▸ mt accepts.mp set
    rw [ledStates_concat, LedStates.step, Function.update_self, LedState.step,
      ledSet_refused refused]

/-- The front LED is flashed and P1 is set in between. -/
theorem undone_after_flash :
    (ledStates 1000 (fun _ => true) ([] ++ (.front, .set true none) ::
      [(.front, .flash 100 10), (.p1, .set true none), (.front, .expire)] ++
        [(.front, .set false (some 1))]) .front).on = false := by
  have token := undo_token 1000 (fun _ => true) []
    [(.front, .flash 100 10), (.p1, .set true none), (.front, .expire)] .front true false 1
    (by decide) (by decide)
  exact token.2.1 (by decide)

end PassingLink.Output
