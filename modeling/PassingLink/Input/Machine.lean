import PassingLink.Input.Parse

/-! Runs of the input code: polls, and what other code does to its state in between. -/
namespace PassingLink.Input
open Lib Display

inductive Event where
  | poll (p : Poll)
  /-- `input_set_locked(bool)`, some ticks after the last event. -/
  | setLocked (locked : Bool) (elapsed : Nat)
  | setRawState (raw : RawInputState)

def Device.boot (b : Board) : Device :=
  let contact : TouchpadXY := ⟨0, true, [0, 0, 0]⟩
  menuInit b
    { clock := 0
      rawState := RawInputState.released
      outputMode := .modeDpad
      inputLocked := false
      inputLockTick := 0
      buttonHistory := fun _ => Button.boot
      socdTypeX := .neutral
      socdTypeY := .negative
      activeProfileIdx := 0
      menuOpened := false
      menu := ⟨true, [], [], 0, 0, false⟩
      touchpadData := ⟨contact, contact⟩
      halted := false }

def Device.step (b : Board) (d : Device) (e : Event) : Device :=
  if d.halted then d
  else
    match e with
    | .poll p => (inputGetState b d p).device
    | .setLocked locked elapsed =>
        { d with clock := d.clock + elapsed }.inputSetLocked b locked (d.clock + elapsed)
    | .setRawState raw => { d with rawState := raw }

theorem boot_unlocked (b : Board) : (Device.boot b).inputLocked = false := rfl

def reach (b : Board) (es : List Event) : Device := run (Device.step b) (Device.boot b) es

def AtPolls (P : Device → Poll → Prop) (d : Device) (e : Event) : Prop :=
  ∀ p, e = .poll p → d.halted = false → P d p

/-- A poll of a board with pins, some ticks after the last event, the given inputs held. -/
def Poll.holding (inputs : List Gpio) (elapsed : Nat) : Poll :=
  ⟨none, fun g => g ∈ inputs, RawInputState.released, elapsed, 0⟩

def holding (inputs : List Gpio) (elapsed : Nat) : Event := .poll (Poll.holding inputs elapsed)

/-! ### A poll in terms of the state before it -/

section Poll
variable (b : Board) (d : Device) (p : Poll)

def HasMenu : Prop := b.display = true ∧ b.available .buttonMenu = true

instance : Decidable (HasMenu b) := inferInstanceAs (Decidable (_ ∧ _))

def Device.tick : Nat := d.clock + p.elapsed

/-- The tick of a poll is later than that of the last one. -/
def Device.Later (lastPoll : Option Nat) (e : Event) : Prop :=
  ∀ p last, e = .poll p → d.halted = false → lastPoll = some last → last < d.tick p

def Device.debounced : RawInputState :=
  (debounceInputs b (inputGetRawState b d p) d.buttonHistory (d.tick p)).1

def Device.history : ButtonHistory :=
  (debounceInputs b (inputGetRawState b d p) d.buttonHistory (d.tick p)).2

def Device.profile : Profile := activeProfile b d.activeProfileIdx

def Device.stick : StickOutput :=
  inputSocd (d.profile b) d.socdTypeX d.socdTypeY (d.debounced b p) (d.history b p)

/-- The poll stores nothing past the end of `socd_buf`. -/
def StoresInside : Prop := (d.profile b).Fits b (d.debounced b p) (d.history b p)

def Device.mode : OutputMode := inputParseMode b (d.debounced b p) d.outputMode

def Device.gesture : ParsedMenu :=
  if HasMenu b then
    inputProfileParseMenu b d.inputGetLockTick d.menuOpened (d.history b p .buttonMenu)
      (d.stick b p) (d.tick p)
  else ⟨false, d.menuOpened, []⟩

/-- The device when `input_profile_parse` is called. -/
def Device.polled : Device :=
  { d with
    clock := d.tick p + p.delay
    buttonHistory := d.history b p
    outputMode := d.mode b p }

variable {b d p} {g : Gpio}

theorem storesInside_iff : StoresInside b d p ↔ SocdFits b :=
  activeProfile_fits_iff b (d.debounced b p) (d.history b p) d.activeProfileIdx

theorem history_state (available : b.available g = true) :
    (d.history b p g).state = d.debounced b p g := by
  simp only [Device.history, Device.debounced, debounceInputs, available, if_true,
    inputDebounce_value]

theorem history_unavailable (missing : b.available g = false) :
    d.history b p g = d.buttonHistory g ∧ d.debounced b p g = inputGetRawState b d p g := by
  simp only [Device.history, Device.debounced, debounceInputs, missing, Bool.false_eq_true,
    if_false, and_self]

theorem gesture_absent (absent : ¬ HasMenu b) :
    d.gesture b p = ⟨false, d.menuOpened, []⟩ := by
  rw [Device.gesture, if_neg absent]

theorem calls_of_passed {lockTick : Option Nat} {menuOpened : Bool} {menuButton : Button}
    {stick : StickOutput} {currentTick : Nat}
    (passed : (inputProfileParseMenu b lockTick menuOpened menuButton stick
      currentTick).swallowed = false) :
    (inputProfileParseMenu b lockTick menuOpened menuButton stick currentTick).calls = [] ∨
      (inputProfileParseMenu b lockTick menuOpened menuButton stick currentTick).calls =
        [.closeMenu] := by
  unfold inputProfileParseMenu at passed ⊢
  split
  · split
    · exact Or.inr rfl
    · exact Or.inl rfl
  · rename_i pressed
    rw [if_neg pressed] at passed
    split
    · split
      · exact Or.inl rfl
      · rename_i held
        simp only [if_neg held] at passed
        split at passed <;> cases passed
    · cases passed

theorem calls_of_gesture (passed : (d.gesture b p).swallowed = false) :
    (d.gesture b p).calls = [] ∨ (d.gesture b p).calls = [.closeMenu] := by
  unfold Device.gesture at passed ⊢
  split
  · rename_i present
    rw [if_pos present] at passed
    exact calls_of_passed passed
  · exact Or.inl rfl

theorem reportInputs_congr {d d' : Device} (mode : d'.outputMode = d.outputMode)
    (locked : d'.inputLocked = d.inputLocked) (mapping : ButtonMapping) (raw : RawInputState)
    (stick : StickOutput) (out : InputState) :
    reportInputs d' mapping raw stick out = reportInputs d mapping raw stick out := by
  unfold reportInputs Device.inputGetLockTick
  rw [mode, locked]

/-- When the menu lets a poll pass, it has not changed what is reported. -/
theorem reportInputs_passed {d : Device} {parsed : ParsedMenu}
    (calls : parsed.calls = [] ∨ parsed.calls = [.closeMenu]) (mapping : ButtonMapping)
    (raw : RawInputState) (stick : StickOutput) (out : InputState) :
    reportInputs (menuCalls b { d with menuOpened := parsed.menuOpened } parsed.calls) mapping raw
      stick out = reportInputs d mapping raw stick out := by
  rcases calls with uncalled | closed
  · rw [uncalled]
    rfl
  · rw [closed]
    have kept := menuClose_settings b { d with menuOpened := parsed.menuOpened }
    exact reportInputs_congr kept.1 kept.2 mapping raw stick out

theorem menuButton_of_profile :
    (if b.display = true ∧ (d.profile b).buttonMapping .buttonMenu ≠ 0xff then
      inputProfileParseMenu b d.inputGetLockTick d.menuOpened
        (historyAt (d.history b p) ((d.profile b).buttonMapping .buttonMenu)) (d.stick b p)
        (d.tick p)
      else ⟨false, d.menuOpened, []⟩) = d.gesture b p := by
  have menu : (d.profile b).buttonMapping .buttonMenu = baseMapping b .buttonMenu :=
    activeProfile_menu b d.activeProfileIdx
  rw [menu]
  by_cases present : HasMenu b
  · have there : baseMapping b .buttonMenu = Gpio.buttonMenu.offset := by
      simp only [baseMapping, present.2, if_true]
    rw [there, if_pos ⟨present.1, offset_available _⟩, historyAt_offset, Device.gesture,
      if_pos present]
  · have hidden : ¬ (b.display = true ∧ baseMapping b .buttonMenu ≠ 0xff) := by
      rw [Ne, baseMapping_missing_iff, Bool.not_eq_false]
      exact present
    rw [if_neg hidden, gesture_absent present]

theorem poll_eq :
    inputGetState b d p =
      { out :=
          if (d.gesture b p).swallowed then InputState.neutral d.touchpadData
          else reportInputs (d.polled b p) (d.profile b).buttonMapping (d.debounced b p)
            (d.stick b p) (InputState.neutral d.touchpadData)
        stick := d.stick b p
        calls := (d.gesture b p).calls
        device := menuCalls b { d.polled b p with menuOpened := (d.gesture b p).menuOpened }
          (d.gesture b p).calls } := by
  have unfolded : inputGetState b d p =
      let parsed := d.gesture b p
      let d' := menuCalls b { d.polled b p with menuOpened := parsed.menuOpened } parsed.calls
      { out :=
          if parsed.swallowed then InputState.neutral d.touchpadData
          else reportInputs d' (d.profile b).buttonMapping (d.debounced b p) (d.stick b p)
            (InputState.neutral d.touchpadData)
        stick := d.stick b p
        calls := parsed.calls
        device := d' } := by
    rw [← menuButton_of_profile]
    rfl
  rw [unfolded]
  by_cases swallowed : (d.gesture b p).swallowed = true
  · simp only [swallowed, if_true]
  · have passed := calls_of_gesture (Bool.not_eq_true _ ▸ swallowed)
    simp only [swallowed, Bool.false_eq_true, if_false, reportInputs_passed passed]

theorem poll_untouched :
    Untouched { d.polled b p with menuOpened := (d.gesture b p).menuOpened }
      (inputGetState b d p).device := by
  rw [poll_eq]
  exact menuCalls_untouched b _ _

theorem poll_buttonHistory : (inputGetState b d p).device.buttonHistory = d.history b p :=
  poll_untouched.buttonHistory

theorem poll_menuOpened :
    (inputGetState b d p).device.menuOpened = (d.gesture b p).menuOpened :=
  poll_untouched.menuOpened

theorem poll_clock : (inputGetState b d p).device.clock = d.tick p + p.delay :=
  poll_untouched.clock

theorem step_poll (running : d.halted = false) :
    d.step b (.poll p) = (inputGetState b d p).device := by
  simp only [Device.step, running, Bool.false_eq_true, if_false]

theorem step_halted {e : Event} (halted : d.halted = true) : d.step b e = d := by
  simp only [Device.step, halted, if_true]

theorem run_halted (halted : d.halted = true) (es : List Event) :
    run (Device.step b) d es = d :=
  run_still (fun _ => step_halted halted) es

theorem history_available (available : b.available g = true) :
    d.history b p g = (inputDebounce (kMsToCycCeil64 b.cyclesPerSec 5) (inputGetRawState b d p g)
      (d.buttonHistory g) (d.tick p)).2 := by
  simp only [Device.history, debounceInputs, available, if_true]

end Poll

/-! ### Recorded ticks are in the past -/

def TicksPast (d : Device) : Prop := ∀ g, (d.buttonHistory g).tick ≤ d.clock

theorem inputDebounce_tick_le {transitionTime : Nat} {level : Bool} {button : Button}
    {currentTick : Nat} (past : button.tick ≤ currentTick) :
    (inputDebounce transitionTime level button currentTick).2.tick ≤ currentTick := by
  rcases inputDebounce_cases transitionTime level button currentTick with ⟨same, -⟩ | ⟨changed, -⟩
  · rw [same]
    exact past
  · rw [changed]

theorem history_tick_le {b : Board} {d : Device} (past : TicksPast d) (p : Poll) (g : Gpio) :
    (d.history b p g).tick ≤ d.tick p := by
  have earlier : (d.buttonHistory g).tick ≤ d.tick p :=
    Nat.le_trans (past g) (Nat.le_add_right _ _)
  cases available : b.available g with
  | true =>
      rw [history_available available]
      exact inputDebounce_tick_le earlier
  | false =>
      rw [(history_unavailable available).1]
      exact earlier

theorem step_other_history {b : Board} {d : Device} {e : Event} (other : ∀ p, e ≠ .poll p) :
    (d.step b e).buttonHistory = d.buttonHistory ∧ d.clock ≤ (d.step b e).clock := by
  cases e with
  | poll p => exact absurd rfl (other p)
  | setLocked locked elapsed =>
      simp only [Device.step]
      split
      · exact ⟨rfl, Nat.le_refl _⟩
      · exact ⟨rfl, Nat.le_add_right _ _⟩
  | setRawState raw =>
      simp only [Device.step]
      split
      · exact ⟨rfl, Nat.le_refl _⟩
      · exact ⟨rfl, Nat.le_refl _⟩

theorem ticksPast_step {b : Board} {d : Device} (past : TicksPast d) (e : Event) :
    TicksPast (d.step b e) := by
  have unchanged (other : ∀ p, e ≠ .poll p) : TicksPast (d.step b e) := by
    intro g
    obtain ⟨kept, later⟩ := step_other_history (b := b) (d := d) other
    rw [kept]
    exact Nat.le_trans (past g) later
  cases e with
  | poll p =>
      cases halted : d.halted with
      | true =>
          rw [step_halted halted]
          exact past
      | false =>
          intro g
          rw [step_poll halted, poll_buttonHistory, poll_clock]
          exact Nat.le_trans (history_tick_le past p g) (Nat.le_add_right _ _)
  | setLocked | setRawState => exact unchanged (by intro p is; cases is)

theorem reach_ticksPast (b : Board) (es : List Event) : TicksPast (reach b es) := by
  have preserved (d : Device) (e : Event) (past : TicksPast d) : TicksPast (d.step b e) :=
    ticksPast_step past e
  have initial : TicksPast (Device.boot b) := fun _ => Nat.zero_le _
  exact run_invariant preserved initial es

/-! ### Every button follows the debouncer -/

/-- The samples that the debouncer of an input sees in a run, each some ticks after the
one before; `last` is the tick of the latest. -/
def levelSamples (b : Board) (g : Gpio) : Device → Nat → List Event → List LevelSample
  | _, _, [] => []
  | d, last, .poll p :: es =>
      if d.halted then levelSamples b g d last es
      else
        ⟨inputGetRawState b d p g, d.tick p - last⟩ ::
          levelSamples b g (d.step b (.poll p)) (d.tick p) es
  | d, last, e :: es => levelSamples b g (d.step b e) last es

theorem run_watched {b : Board} {g : Gpio} (available : b.available g = true) (es : List Event)
    {d : Device} {w : Watched} (button : d.buttonHistory g = w.button) (past : w.clock ≤ d.clock) :
    (run (Device.step b) d es).buttonHistory g =
      (run (Watched.step b.cyclesPerSec) w (levelSamples b g d w.clock es)).button := by
  induction es generalizing d w with
  | nil => exact button
  | cons e es ih =>
      cases e with
      | poll p =>
          by_cases halted : d.halted = true
          · simp only [levelSamples, halted, if_true, run_cons, step_halted halted]
            exact ih button past
          · have running : d.halted = false := Bool.not_eq_true _ ▸ halted
            have now : w.now ⟨inputGetRawState b d p g, d.tick p - w.clock⟩ = d.tick p := by
              simp only [Watched.now, Device.tick]
              omega
            simp only [levelSamples, halted, Bool.false_eq_true, if_false, run_cons]
            generalize taken : (⟨inputGetRawState b d p g, d.tick p - w.clock⟩ : LevelSample) =
              sample at now ⊢
            have level : sample.level = inputGetRawState b d p g := by rw [← taken]
            have sampled : (w.step b.cyclesPerSec sample).clock = d.tick p := now
            rw [← sampled]
            apply ih
            · rw [step_poll running, poll_buttonHistory, history_available available, button, ← now,
                ← level]
              rfl
            · rw [step_poll running, poll_clock, sampled]
              exact Nat.le_add_right _ _
      | setLocked locked elapsed =>
          have kept := step_other_history (b := b) (d := d) (e := .setLocked locked elapsed)
            (by intro p is; cases is)
          exact ih ((congrFun kept.1 g).trans button) (Nat.le_trans past kept.2)
      | setRawState raw =>
          have kept := step_other_history (b := b) (d := d) (e := .setRawState raw)
            (by intro p is; cases is)
          exact ih ((congrFun kept.1 g).trans button) (Nat.le_trans past kept.2)

/-- The history of an available input is what the debouncer makes of its samples. -/
theorem reach_watched {b : Board} {g : Gpio} (available : b.available g = true)
    (es : List Event) :
    (reach b es).buttonHistory g = (run (Watched.step b.cyclesPerSec) Watched.boot
      (levelSamples b g (Device.boot b) 0 es)).button :=
  run_watched available es rfl (Nat.zero_le _)

end PassingLink.Input
