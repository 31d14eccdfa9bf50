import PassingLink.Input.Types
import PassingLink.Lib.Runs

/-! The LEDs of `led.cpp`: a value that is set, and a flash that hides it for a while. -/
namespace PassingLink.Output
open Input Lib

/-- `pending` is the delay with which `work` is scheduled; a work item is never scheduled twice.
`level` is the state of the pin. -/
structure LedState where
  pending : Option UInt32
  ledDevice : Bool
  level : Bool
  counter : UInt32
  durationTicks : UInt32
  intervalTicks : UInt32
  initialized : Bool
  on : Bool
  flashing : Bool
  deriving DecidableEq, Repr

/-- After `led_init`; only the LEDs in the devicetree have a device. -/
def LedState.init (present : Bool) : LedState where
  pending := none
  ledDevice := present
  level := false
  counter := 0
  durationTicks := 0
  intervalTicks := 0
  initialized := present
  on := false
  flashing := false

def LedState.setLevel (state : LedState) (on : Bool) : LedState :=
  if state.ledDevice then { state with level := on } else state

def LedState.ledToggle (state : LedState) : LedState :=
  if state.ledDevice then { state with level := !state.level } else state

def LedState.ledScheduleUpdate (state : LedState) : LedState :=
  if state.initialized then { state with pending := some state.intervalTicks } else state

def LedState.ledUpdate (state : LedState) : LedState :=
  if state.flashing then
    if state.durationTicks < state.intervalTicks then
      { state.setLevel state.on with intervalTicks := 0, durationTicks := 0, flashing := false }
    else
      let state := state.ledToggle
      { state with durationTicks := state.durationTicks - state.intervalTicks }.ledScheduleUpdate
  else state.setLevel state.on

/-- The guard of `led_set`. -/
def LedState.accepts (state : LedState) (expectedCounter : Option UInt32) : Bool :=
  match expectedCounter with
  | none => true
  | some expected => expected = state.counter

def LedState.ledSet (state : LedState) (value : Bool) (expectedCounter : Option UInt32) :
    UInt32 × LedState :=
  if state.accepts expectedCounter = false then (state.counter, state)
  else
    let state := { state with on := value }
    let state := if state.flashing then state else state.ledUpdate
    match expectedCounter with
    | some expected => (expected, state)
    | none => (state.counter + 1, { state with counter := state.counter + 1 })

def kMsToTicksCeil32 (ticksPerSec : Nat) (ms : UInt32) : UInt32 :=
  UInt32.ofNat (kMsToTicksCeil64 ticksPerSec ms.toNat)

def LedState.ledFlash (ticksPerSec : Nat) (state : LedState) (durationMs intervalMs : UInt32) :
    LedState :=
  { state with
    flashing := true
    durationTicks := kMsToTicksCeil32 ticksPerSec durationMs
    intervalTicks := kMsToTicksCeil32 ticksPerSec intervalMs }.ledScheduleUpdate

/-! ### Calls and timer expiries -/

/-- `led_on` and `led_off` set a value. -/
inductive LedCall where
  | set (value : Bool) (expectedCounter : Option UInt32)
  | flash (durationMs intervalMs : UInt32)
  | expire
  deriving DecidableEq, Repr

/-- The work item as its handler finds it. -/
def LedState.taken (state : LedState) : LedState := { state with pending := none }

/-- The timer expires only when it is running. -/
def LedState.step (ticksPerSec : Nat) (state : LedState) : LedCall → LedState
  | .set value expectedCounter => (state.ledSet value expectedCounter).2
  | .flash durationMs intervalMs => state.ledFlash ticksPerSec durationMs intervalMs
  | .expire =>
      if state.pending.isSome then state.taken.ledUpdate else state

/-- An LED with the last value that was accepted, and the numbers of its toggles and of the
updates by its timer. -/
structure Lit where
  led : LedState
  last : Bool
  toggles : Nat
  updates : Nat
  deriving DecidableEq, Repr

def Lit.init : Lit := ⟨LedState.init true, false, 0, 0⟩

def LedState.togglesNext (state : LedState) : Bool :=
  state.flashing ∧ state.intervalTicks ≤ state.durationTicks

def Lit.step (ticksPerSec : Nat) (s : Lit) (call : LedCall) : Lit :=
  let led := s.led.step ticksPerSec call
  match call with
  | .set value expectedCounter =>
      { s with led, last := if s.led.accepts expectedCounter then value else s.last }
  | .flash _ _ => { s with led }
  | .expire =>
      if s.led.pending.isSome then
        { s with
          led
          updates := s.updates + 1
          toggles := if s.led.togglesNext then s.toggles + 1 else s.toggles }
      else { s with led }

/-- The interval of a flash lasts a tick. -/
def LedCall.Ticks (ticksPerSec : Nat) : LedCall → Prop
  | .flash _ intervalMs => 0 < kMsToTicksCeil32 ticksPerSec intervalMs
  | _ => True

/-! ### What the pin shows -/

structure Shown (s : Lit) : Prop where
  initialized : s.led.initialized = true
  ledDevice : s.led.ledDevice = true
  on : s.led.on = s.last
  level : s.led.flashing = false → s.led.level = s.led.on
  idle : s.led.flashing = false → s.led.pending = none
  pending : s.led.flashing = true → s.led.pending.isSome = true
  ticks : s.led.flashing = true → 0 < s.led.intervalTicks

section Shown
variable {ticksPerSec : Nat} {s : Lit}

theorem shown_init : Shown Lit.init where
  initialized := rfl
  ledDevice := rfl
  on := rfl
  level := fun _ => rfl
  idle := fun _ => rfl
  pending := fun flashing => absurd flashing Bool.false_ne_true
  ticks := fun flashing => absurd flashing Bool.false_ne_true

theorem ledSet_refused {state : LedState} {value : Bool} {expected : Option UInt32}
    (refused : state.accepts expected = false) :
    state.ledSet value expected = (state.counter, state) := by
  rw [LedState.ledSet, if_pos refused]

/-- A value that is accepted is recorded, and shown unless the LED is flashing. -/
theorem ledSet_accepted {state : LedState} (value : Bool) {expected : Option UInt32}
    (accepted : state.accepts expected = true) :
    (state.ledSet value expected).2 =
      { state with
        on := value
        level := if state.flashing = false ∧ state.ledDevice = true then value else state.level
        counter := if expected = none then state.counter + 1 else state.counter } := by
  have passed : ¬ state.accepts expected = false := by
    rw [accepted, Bool.true_eq_false]
    exact not_false
  rw [LedState.ledSet, if_neg passed]
  cases flashing : state.flashing with
  | true => cases expected <;> rfl
  | false =>
      cases device : state.ledDevice <;> cases expected <;>
        simp only [LedState.ledUpdate, LedState.setLevel, Bool.false_eq_true, if_false, if_true,
          and_self, and_false, reduceCtorEq]

theorem shown_set (shown : Shown s) (value : Bool) (expected : Option UInt32) :
    Shown (s.step ticksPerSec (.set value expected)) := by
  unfold Lit.step LedState.step
  cases accepted : s.led.accepts expected with
  | false =>
      dsimp only
      rw [ledSet_refused accepted, accepted, if_neg Bool.false_ne_true]
      exact ⟨shown.initialized, shown.ledDevice, shown.on, shown.level, shown.idle, shown.pending,
        shown.ticks⟩
  | true =>
      dsimp only
      rw [ledSet_accepted value accepted, accepted, if_pos rfl]
      exact
        { initialized := shown.initialized
          ledDevice := shown.ledDevice
          on := rfl
          level := fun still => if_pos ⟨still, shown.ledDevice⟩
          idle := shown.idle
          pending := shown.pending
          ticks := shown.ticks }

theorem step_flash (shown : Shown s) (durationMs intervalMs : UInt32) :
    s.step ticksPerSec (.flash durationMs intervalMs) =
      { s with
        led :=
          { s.led with
            flashing := true
            durationTicks := kMsToTicksCeil32 ticksPerSec durationMs
            intervalTicks := kMsToTicksCeil32 ticksPerSec intervalMs
            pending := some (kMsToTicksCeil32 ticksPerSec intervalMs) } } := by
  unfold Lit.step LedState.step
  dsimp only
  rw [LedState.ledFlash, LedState.ledScheduleUpdate, if_pos shown.initialized]

theorem shown_flash (shown : Shown s) {durationMs intervalMs : UInt32}
    (ticks : 0 < kMsToTicksCeil32 ticksPerSec intervalMs) :
    Shown (s.step ticksPerSec (.flash durationMs intervalMs)) := by
  rw [step_flash shown]
  exact
    { initialized := shown.initialized
      ledDevice := shown.ledDevice
      on := shown.on
      level := fun still => absurd still Bool.true_eq_false.mp
      idle := fun still => absurd still Bool.true_eq_false.mp
      pending := fun _ => rfl
      ticks := fun _ => ticks }

theorem ledUpdate_toggle {state : LedState} (initialized : state.initialized = true)
    (device : state.ledDevice = true) (flashing : state.flashing = true)
    (left : state.intervalTicks ≤ state.durationTicks) :
    state.ledUpdate =
      { state with
        level := !state.level
        durationTicks := state.durationTicks - state.intervalTicks
        pending := some state.intervalTicks } := by
  have more : ¬ state.durationTicks < state.intervalTicks := UInt32.not_lt.mpr left
  rw [LedState.ledUpdate, if_pos flashing, if_neg more, LedState.ledToggle, if_pos device,
    LedState.ledScheduleUpdate, if_pos initialized]

theorem ledUpdate_stop {state : LedState} (device : state.ledDevice = true)
    (flashing : state.flashing = true) (last : state.durationTicks < state.intervalTicks) :
    state.ledUpdate =
      { state with
        level := state.on
        durationTicks := 0
        intervalTicks := 0
        flashing := false } := by
  rw [LedState.ledUpdate, if_pos flashing, if_pos last, LedState.setLevel, if_pos device]

inductive ExpireCase (s : Lit) : Lit → Prop where
  | idle (still : s.led.flashing = false) : ExpireCase s s
  | toggle (flashing : s.led.flashing = true)
      (left : s.led.intervalTicks ≤ s.led.durationTicks) :
      ExpireCase s
        { s with
          led :=
            { s.led with
              level := !s.led.level
              durationTicks := s.led.durationTicks - s.led.intervalTicks
              pending := some s.led.intervalTicks }
          updates := s.updates + 1
          toggles := s.toggles + 1 }
  | stop (flashing : s.led.flashing = true)
      (last : s.led.durationTicks < s.led.intervalTicks) :
      ExpireCase s
        { s with
          led :=
            { s.led with
              level := s.led.on
              intervalTicks := 0
              durationTicks := 0
              flashing := false
              pending := none }
          updates := s.updates + 1 }

theorem step_expire (s : Lit) :
    s.step ticksPerSec .expire =
      if s.led.pending.isSome then
        { s with
          led := s.led.taken.ledUpdate
          updates := s.updates + 1
          toggles := if s.led.togglesNext then s.toggles + 1 else s.toggles }
      else s := by
  unfold Lit.step LedState.step
  dsimp only
  split <;> rfl

theorem expire_cases (shown : Shown s) : ExpireCase s (s.step ticksPerSec .expire) := by
  rw [step_expire]
  cases flashing : s.led.flashing with
  | false =>
      have idle : ¬ s.led.pending.isSome = true := by
        rw [shown.idle flashing]
        exact Bool.false_ne_true
      rw [if_neg idle]
      exact .idle flashing
  | true =>
      rw [if_pos (shown.pending flashing)]
      by_cases left : s.led.intervalTicks ≤ s.led.durationTicks
      · have again : s.led.togglesNext = true := decide_eq_true ⟨flashing, left⟩
        have toggled : s.led.taken.ledUpdate = _ :=
          ledUpdate_toggle shown.initialized shown.ledDevice flashing left
        rw [if_pos again, toggled]
        exact .toggle flashing left
      · have done : ¬ s.led.togglesNext = true := by
          intro again
          exact left (of_decide_eq_true again).2
        have last : s.led.durationTicks < s.led.intervalTicks := UInt32.not_le.mp left
        have stopped : s.led.taken.ledUpdate = _ := ledUpdate_stop shown.ledDevice flashing last
        rw [if_neg done, stopped]
        exact .stop flashing last

theorem shown_expire (shown : Shown s) : Shown (s.step ticksPerSec .expire) := by
  have expired : ExpireCase s (s.step ticksPerSec .expire) := expire_cases shown
  generalize s.step ticksPerSec .expire = s' at expired
  cases expired with
  | idle still => exact shown
  | toggle flashing left =>
      exact
        { initialized := shown.initialized
          ledDevice := shown.ledDevice
          on := shown.on
          level := fun still => absurd (flashing.symm.trans still) Bool.true_eq_false.mp
          idle := fun still => absurd (flashing.symm.trans still) Bool.true_eq_false.mp
          pending := fun _ => rfl
          ticks := fun _ => shown.ticks flashing }
  | stop flashing last =>
      exact
        { initialized := shown.initialized
          ledDevice := shown.ledDevice
          on := shown.on
          level := fun _ => rfl
          idle := fun _ => rfl
          pending := fun flashing => absurd flashing Bool.false_ne_true
          ticks := fun flashing => absurd flashing Bool.false_ne_true }

theorem shown_step (s : Lit) (call : LedCall) (ticks : call.Ticks ticksPerSec) (shown : Shown s) :
    Shown (s.step ticksPerSec call) := by
  cases call with
  | set value expected => exact shown_set shown value expected
  | flash durationMs intervalMs => exact shown_flash shown ticks
  | expire => exact shown_expire shown

end Shown

/-! ### One flash -/

def LedCall.flashes : LedCall → Bool
  | .flash _ _ => true
  | _ => false

section Flashing
variable {ticksPerSec duration interval toggles updates n : Nat} {s : Lit}

end Flashing

def lit (ticksPerSec : Nat) (calls : List LedCall) : Lit :=
  run (Lit.step ticksPerSec) Lit.init calls

end PassingLink.Output
