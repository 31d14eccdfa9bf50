import PassingLink.Input.Gesture
import PassingLink.Input.SocdReference

/-! The calls that the polls make into the menu, in the order in which they make them. -/
namespace PassingLink.Input
open Lib Display

/-! ### The protocol -/

/-- Calls that a menu which is open or not may get, and whether it is open after them. -/
inductive Protocol : Bool → List MenuCall → Bool → Prop
  | done (opened) : Protocol opened [] opened
  | openMenu {calls opened} : Protocol true calls opened → Protocol false (.openMenu :: calls) opened
  | closeMenu {calls opened} :
      Protocol false calls opened → Protocol true (.closeMenu :: calls) opened
  | input {calls opened} (input) :
      Protocol true calls opened → Protocol true (.input input :: calls) opened

theorem Protocol.append {before between after : Bool} {xs ys : List MenuCall}
    (first : Protocol before xs between) (second : Protocol between ys after) :
    Protocol before (xs ++ ys) after := by
  induction first with
  | done opened => exact second
  | openMenu _ ih => exact .openMenu (ih second)
  | closeMenu _ ih => exact .closeMenu (ih second)
  | input dir _ ih => exact .input dir (ih second)

/-- The side of its axis that a direction is. -/
def side : MenuInput → SOCDButtonType
  | .up | .left => .negative
  | .down | .right => .positive

def axisList (profile : Profile) : MenuInput → RawInputState → ButtonHistory → List SOCDInputs
  | .left | .right => profile.socdX
  | .up | .down => profile.socdY

/-- The list has an entry for the input on the given side, whatever is pressed. -/
def Lists (inputs : RawInputState → ButtonHistory → List SOCDInputs) (g : Gpio)
    (buttonType : SOCDButtonType) : Prop :=
  ∃ overrides, ∀ raw history, socdInput raw history g buttonType overrides ∈ inputs raw history

/-- The debouncer accepts the press of the input in this poll. -/
structure PressAccepted (b : Board) (d : Device) (p : Poll) (g : Gpio) : Prop where
  available : b.available g = true
  released : (d.buttonHistory g).state = false
  pressed : (d.history b p g).state = true
  now : (d.history b p g).tick = d.tick p

/-- The devices of a run, the tick of the last poll, and the calls made so far. -/
structure Called where
  device : Device
  lastPoll : Option Nat
  calls : List MenuCall

def Called.boot (b : Board) : Called := ⟨Device.boot b, none, []⟩

def Called.step (b : Board) (s : Called) (e : Event) : Called :=
  match e with
  | .poll p =>
      if s.device.halted then s
      else
        { device := s.device.step b e
          lastPoll := some (s.device.tick p)
          calls := s.calls ++ (inputGetState b s.device p).calls }
  | _ => { s with device := s.device.step b e }

/-- A poll navigates at most once, and only with a press that it accepts itself. -/
structure Navigates (b : Board) (d : Device) (p : Poll) : Prop where
  once : ((inputGetState b d p).calls.filter fun call =>
    call ≠ .openMenu ∧ call ≠ .closeMenu).length ≤ 1
  fresh : ∀ dir, .input dir ∈ (inputGetState b d p).calls →
    ∃ g, Lists (axisList (d.profile b) dir) g (side dir) ∧ PressAccepted b d p g

/-! ### The lists of the profiles -/

section Lists
variable {b : Board} {raw : RawInputState} {history : ButtonHistory} {input : SOCDInputs}

/-- Every entry of the list, with these values, is one that the list has for any values. -/
def Listed (inputs : RawInputState → ButtonHistory → List SOCDInputs) : Prop :=
  ∀ raw history, ∀ input ∈ inputs raw history, ∃ g, Lists inputs g input.buttonType ∧
    input.inputValue = raw g ∧ input.inputTick = (history g).tick

theorem listed_map (entries : List (Gpio × SOCDButtonType × Bool)) :
    Listed fun raw history =>
      entries.map fun entry => socdInput raw history entry.1 entry.2.1 entry.2.2 := by
  intro raw history input member
  obtain ⟨entry, there, rfl⟩ := List.mem_map.mp member
  refine ⟨entry.1, ⟨entry.2.2, ?_⟩, rfl, rfl⟩
  intro raw history
  exact List.mem_map.mpr ⟨entry, there, rfl⟩

def entriesX : List (Gpio × SOCDButtonType × Bool) :=
  [(.stickLeft, .negative, false), (.stickRight, .positive, false)]

def entriesY (b : Board) : List (Gpio × SOCDButtonType × Bool) :=
  [(.stickUp, .negative, false), (.stickDown, .positive, false)] ++
  if b.available .buttonW then [(.buttonW, .negative, false)] else []

def entriesThumbs (b : Board) (left right : SOCDButtonType) :
    List (Gpio × SOCDButtonType × Bool) :=
  (if b.available .buttonThumbLeft then [(.buttonThumbLeft, left, true)] else []) ++
  if b.available .buttonThumbRight then [(.buttonThumbRight, right, true)] else []

theorem defaultSocdY_entries (b : Board) :
    defaultSocdY b = fun raw history =>
      (entriesY b).map fun entry => socdInput raw history entry.1 entry.2.1 entry.2.2 := by
  funext raw history
  unfold defaultSocdY entriesY
  split
  · rfl
  · rfl

theorem withThumbs_entries (b : Board) (left right : SOCDButtonType)
    (entries : List (Gpio × SOCDButtonType × Bool)) :
    (fun raw history => withThumbs b raw history left right
      (entries.map fun entry => socdInput raw history entry.1 entry.2.1 entry.2.2)) =
      fun raw history => (entries ++ entriesThumbs b left right).map
        fun entry => socdInput raw history entry.1 entry.2.1 entry.2.2 := by
  funext raw history
  unfold withThumbs entriesThumbs
  rw [List.map_append, List.map_append, List.append_assoc]
  split
  · split
    · rfl
    · rfl
  · split
    · rfl
    · rfl

theorem listed_thumbs {left right : SOCDButtonType}
    {inputs : RawInputState → ButtonHistory → List SOCDInputs}
    (entries : List (Gpio × SOCDButtonType × Bool))
    (same : inputs = fun raw history =>
      entries.map fun entry => socdInput raw history entry.1 entry.2.1 entry.2.2) :
    Listed fun raw history => withThumbs b raw history left right (inputs raw history) := by
  rw [same, withThumbs_entries]
  exact listed_map _

theorem listed_profiles (b : Board) :
    ∀ profile ∈ profiles b, Listed profile.socdX ∧ Listed profile.socdY := by
  have defaultX : Listed defaultSocdX := listed_map entriesX
  have defaultY : Listed (defaultSocdY b) := by
    rw [defaultSocdY_entries]
    exact listed_map _
  intro profile member
  unfold profiles at member
  split at member
  · simp only [List.mem_cons, List.not_mem_nil, or_false] at member
    rcases member with rfl | rfl | rfl
    · exact ⟨defaultX, defaultY⟩
    · exact ⟨listed_thumbs entriesX rfl, listed_thumbs _ (defaultSocdY_entries b)⟩
    · exact ⟨listed_thumbs entriesX rfl, listed_thumbs _ (defaultSocdY_entries b)⟩
  · rw [List.mem_singleton] at member
    rw [member]
    exact ⟨defaultX, defaultY⟩

theorem listed_active (b : Board) (activeProfileIdx : Nat) :
    Listed (activeProfile b activeProfileIdx).socdX ∧
      Listed (activeProfile b activeProfileIdx).socdY := by
  apply listed_profiles b
  unfold activeProfile
  rw [List.getD_eq_getElem?_getD]
  cases found : (profiles b)[activeProfileIdx]? with
  | none =>
      unfold profiles
      split
      · exact List.mem_cons_self
      · exact List.mem_cons_self
  | some profile => exact List.mem_of_getElem? found

end Lists

/-! ### The calls of one poll -/

def axisOf (stick : StickOutput) : MenuInput → Axis
  | .left | .right => stick.x
  | .up | .down => stick.y

theorem navigate_cases {stick : StickOutput} (now : Nat) (x : stick.x.InRange)
    (y : stick.y.InRange) :
    navigate stick now = [] ∨ ∃ dir, navigate stick now = [.input dir] ∧
      (axisOf stick dir).tick = now ∧ (side dir).toInt = (axisOf stick dir).value := by
  have sign {axis : Axis} (range : axis.InRange) (moved : axis.value ≠ 0)
      (other : axis.value ≠ -1) : axis.value = 1 := by
    rcases range with negative | zero | positive
    · exact absurd negative other
    · exact absurd zero moved
    · exact positive
  unfold navigate
  split
  · rename_i moved
    right
    split
    · rename_i negative
      exact ⟨.left, rfl, moved.2, negative.symm⟩
    · rename_i other
      exact ⟨.right, rfl, moved.2, (sign x moved.1 other).symm⟩
  · split
    · rename_i moved
      right
      split
      · rename_i negative
        exact ⟨.up, rfl, moved.2, negative.symm⟩
      · rename_i other
        exact ⟨.down, rfl, moved.2, (sign y moved.1 other).symm⟩
    · exact Or.inl rfl

section Calls
variable {b : Board} {d : Device} {p : Poll}

theorem gesture_released (menu : HasMenu b)
    (released : (d.history b p .buttonMenu).state = false) :
    d.gesture b p = ⟨false, false, if d.menuOpened then [.closeMenu] else []⟩ := by
  rw [gesture_menu menu]
  exact parseMenu_released released _

/-- A pressed menu button whose press came after the tick that the lock claims to have. -/
theorem gesture_pressed (menu : HasMenu b) (pressed : (d.history b p .buttonMenu).state = true)
    (later : 1 < (d.history b p .buttonMenu).tick) :
    (d.gesture b p).calls = [] ∧ (d.gesture b p).menuOpened = d.menuOpened ∨
      (d.gesture b p).menuOpened = true ∧ (d.gesture b p).calls =
        (if d.menuOpened then [] else [.openMenu]) ++ navigate (d.stick b p) (d.tick p) := by
  rw [gesture_menu menu]
  cases d.inputLocked with
  | false =>
      rw [if_neg Bool.false_ne_true, parseMenu_unlocked pressed]
      exact Or.inr ⟨rfl, rfl⟩
  | true =>
      rw [if_pos rfl]
      by_cases held : HeldLong b d p
      · rw [parseMenu_held pressed 1 held]
        right
        cases d.menuOpened with
        | false =>
            rw [if_pos ⟨later, rfl⟩]
            exact ⟨rfl, rfl⟩
        | true =>
            rw [if_neg (by intro closed; cases closed.2)]
            exact ⟨rfl, rfl⟩
      · rw [parseMenu_early pressed 1 (Nat.not_le.mp held)]
        exact Or.inl ⟨rfl, rfl⟩

theorem stick_inRange : (d.stick b p).x.InRange ∧ (d.stick b p).y.InRange :=
  ⟨inputSocdParse_inRange _ _, inputSocdParse_inRange _ _⟩

theorem gesture_protocol (menu : HasMenu b)
    (later : (d.history b p .buttonMenu).state = true → 1 < (d.history b p .buttonMenu).tick) :
    Protocol d.menuOpened (d.gesture b p).calls (d.gesture b p).menuOpened := by
  cases pressed : (d.history b p .buttonMenu).state with
  | false =>
      rw [gesture_released menu pressed]
      cases d.menuOpened with
      | false => exact .done false
      | true => exact .closeMenu (.done false)
  | true =>
      cases gesture_pressed menu pressed (later pressed) with
      | inl waits =>
          rw [waits.1, waits.2]
          exact .done d.menuOpened
      | inr taken =>
          have moves : Protocol true (navigate (d.stick b p) (d.tick p)) true := by
            rcases navigate_cases _ stick_inRange.1 stick_inRange.2 with unmoved | ⟨dir, one, -⟩
            · rw [unmoved]
              exact .done true
            · rw [one]
              exact .input dir (.done true)
          rw [taken.1, taken.2]
          cases d.menuOpened with
          | false => exact .openMenu moves
          | true => exact moves

theorem toInt_injective {s t : SOCDButtonType} (same : s.toInt = t.toInt) : s = t := by
  cases s <;> cases t <;> first | rfl | cases same

/-- The press that navigates: an input of that direction whose recorded tick is this poll's. -/
theorem stick_source {dir : MenuInput} (now : (axisOf (d.stick b p) dir).tick = d.tick p)
    (points : (side dir).toInt = (axisOf (d.stick b p) dir).value) :
    ∃ g, Lists (axisList (d.profile b) dir) g (side dir) ∧ d.debounced b p g = true ∧
      (d.history b p g).tick = d.tick p := by
  obtain ⟨type, parsed⟩ : ∃ type, axisOf (d.stick b p) dir =
      inputSocdParse type (axisList (d.profile b) dir (d.debounced b p) (d.history b p)) := by
    cases dir with
    | left | right => exact ⟨d.socdTypeX, rfl⟩
    | up | down => exact ⟨d.socdTypeY, rfl⟩
  have listed : Listed (axisList (d.profile b) dir) := by
    have both := listed_active b d.activeProfileIdx
    cases dir with
    | left | right => exact both.1
    | up | down => exact both.2
  have moved : (axisOf (d.stick b p) dir).value ≠ 0 := by
    rw [← points]
    cases dir <;> decide
  rw [parsed] at now points moved
  obtain ⟨input, member, pressed, value, tick⟩ := inputSocdParse_carried type _ moved
  have same : input.buttonType = side dir := toInt_injective (value.trans points.symm)
  obtain ⟨g, lists, level, recorded⟩ := listed _ _ input member
  refine ⟨g, ?_, ?_, ?_⟩
  · rw [← same]
    exact lists
  · rw [← level]
    exact pressed
  · rw [← recorded, tick]
    exact now

end Calls

/-! ### Runs -/

/-- What the recorded ticks say about presses, and the menu about the calls. -/
structure Called.Recorded (b : Board) (s : Called) : Prop where
  pressed : ∀ g, (s.device.buttonHistory g).state = true →
    1 < (s.device.buttonHistory g).tick ∧
      ∃ last, s.lastPoll = some last ∧ (s.device.buttonHistory g).tick ≤ last
  missing : ∀ g, b.available g = false → (s.device.buttonHistory g).tick = 0
  protocol : Protocol false s.calls s.device.menuOpened

section Runs
variable {b : Board} {s : Called}

theorem Called.Recorded.poll_pressed (slow : 2 ≤ kMsToCycCeil64 b.cyclesPerSec 5)
    (recorded : s.Recorded b) {p : Poll} (later : s.device.Later s.lastPoll (.poll p))
    (running : s.device.halted = false) {g : Gpio}
    (pressed : (s.device.history b p g).state = true) :
    1 < (s.device.history b p g).tick ∧ (s.device.history b p g).tick ≤ s.device.tick p ∧
      ((s.device.history b p g).tick = s.device.tick p →
        b.available g = true ∧ (s.device.buttonHistory g).state = false) := by
  have old (was : s.device.history b p g = s.device.buttonHistory g) :
      1 < (s.device.history b p g).tick ∧ (s.device.history b p g).tick < s.device.tick p := by
    rw [was] at pressed ⊢
    obtain ⟨positive, last, polled, past⟩ := recorded.pressed g pressed
    exact ⟨positive, Nat.lt_of_le_of_lt past (later p last rfl running polled)⟩
  cases available : b.available g with
  | false =>
      obtain ⟨positive, past⟩ := old (history_unavailable available).1
      exact ⟨positive, Nat.le_of_lt past, fun now => absurd now (Nat.ne_of_lt past)⟩
  | true =>
      have shape := history_available (d := s.device) (p := p) available
      rcases inputDebounce_cases (kMsToCycCeil64 b.cyclesPerSec 5)
        (inputGetRawState b s.device p g) (s.device.buttonHistory g) (s.device.tick p) with
        ⟨same, -⟩ | ⟨changed, differs, waited⟩
      · obtain ⟨positive, past⟩ := old (shape.trans same)
        exact ⟨positive, Nat.le_of_lt past, fun now => absurd now (Nat.ne_of_lt past)⟩
      · rw [shape, changed] at pressed ⊢
        have level : inputGetRawState b s.device p g = true := pressed
        have late : 1 < s.device.tick p := by omega
        refine ⟨late, Nat.le_refl _, fun _ => ⟨rfl, ?_⟩⟩
        rw [level] at differs
        exact Bool.eq_false_iff.mpr differs.symm

/-- The direction that the menu follows is one that this poll takes as pressed. -/
theorem Called.Recorded.accepted_of_stick (slow : 2 ≤ kMsToCycCeil64 b.cyclesPerSec 5)
    (recorded : s.Recorded b) {p : Poll} (later : s.device.Later s.lastPoll (.poll p))
    (running : s.device.halted = false) (positive : 1 < s.device.tick p) {dir : MenuInput}
    (now : (axisOf (s.device.stick b p) dir).tick = s.device.tick p)
    (points : (side dir).toInt = (axisOf (s.device.stick b p) dir).value) :
    ∃ g, Lists (axisList (s.device.profile b) dir) g (side dir) ∧
      PressAccepted b s.device p g := by
  obtain ⟨g, lists, level, tick⟩ := stick_source now points
  refine ⟨g, lists, ?_⟩
  have available : b.available g = true := by
    cases available : b.available g with
    | true => rfl
    | false =>
        rw [(history_unavailable available).1, recorded.missing g available] at tick
        omega
  have state : (s.device.history b p g).state = true := (history_state available).trans level
  have fresh := (recorded.poll_pressed slow later running state).2.2 tick
  exact ⟨available, fresh.2, state, tick⟩

theorem navigates_of_recorded (menu : HasMenu b) (slow : 2 ≤ kMsToCycCeil64 b.cyclesPerSec 5)
    (recorded : s.Recorded b) {p : Poll} (later : s.device.Later s.lastPoll (.poll p))
    (running : s.device.halted = false) : Navigates b s.device p := by
  have calls : (inputGetState b s.device p).calls = (s.device.gesture b p).calls := by
    rw [poll_eq]
  cases pressed : (s.device.history b p .buttonMenu).state with
  | false =>
      have released := gesture_released menu pressed
      constructor
      · rw [calls, released]
        split
        · exact Nat.zero_le 1
        · exact Nat.zero_le 1
      · intro dir member
        rw [calls, released] at member
        split at member
        · cases List.mem_singleton.mp member
        · cases member
  | true =>
      obtain ⟨positive, past, -⟩ := recorded.poll_pressed slow later running pressed
      have moves := navigate_cases (s.device.tick p) (stick_inRange (d := s.device) (p := p)
        (b := b)).1 stick_inRange.2
      cases gesture_pressed menu pressed positive with
      | inl waits =>
          constructor
          · rw [calls, waits.1]
            exact Nat.zero_le 1
          · intro dir member
            rw [calls, waits.1] at member
            cases member
      | inr taken =>
          constructor
          · rw [calls, taken.2]
            rcases moves with unmoved | ⟨dir, one, -⟩
            · rw [unmoved]
              cases s.device.menuOpened <;> exact Nat.zero_le 1
            · rw [one]
              cases s.device.menuOpened <;> exact Nat.le_refl 1
          · intro dir member
            have moved : .input dir ∈ navigate (s.device.stick b p) (s.device.tick p) := by
              rw [calls, taken.2] at member
              cases List.mem_append.mp member with
              | inl opening =>
                  split at opening
                  · cases opening
                  · cases List.mem_singleton.mp opening
              | inr moved => exact moved
            rcases moves with unmoved | ⟨other, one, now, points⟩
            · rw [unmoved] at moved
              cases moved
            · rw [one] at moved
              cases List.mem_singleton.mp moved
              have late := Nat.lt_of_lt_of_le positive past
              exact recorded.accepted_of_stick slow later running late now points

theorem Called.recorded_step (menu : HasMenu b) (slow : 2 ≤ kMsToCycCeil64 b.cyclesPerSec 5)
    {e : Event} (later : s.device.Later s.lastPoll e) (recorded : s.Recorded b) :
    (s.step b e).Recorded b := by
  have unchanged (other : ∀ p, e ≠ .poll p) (opened : (s.device.step b e).menuOpened =
      s.device.menuOpened) : Called.Recorded b { s with device := s.device.step b e } := by
    have kept := (step_other_history (b := b) (d := s.device) other).1
    constructor
    · intro g
      rw [kept]
      exact recorded.pressed g
    · intro g
      rw [kept]
      exact recorded.missing g
    · rw [opened]
      exact recorded.protocol
  cases e with
  | poll p =>
      cases halted : s.device.halted with
      | true =>
          simp only [Called.step, halted, if_true]
          exact recorded
      | false =>
          have presses {g : Gpio} := recorded.poll_pressed (g := g) slow later halted
          simp only [Called.step, halted, Bool.false_eq_true, if_false, step_poll halted]
          constructor
          · intro g pressed
            rw [poll_buttonHistory] at pressed ⊢
            obtain ⟨positive, past, -⟩ := presses pressed
            exact ⟨positive, s.device.tick p, rfl, past⟩
          · intro g missing
            rw [poll_buttonHistory, (history_unavailable missing).1]
            exact recorded.missing g missing
          · rw [poll_menuOpened, poll_eq]
            apply recorded.protocol.append
            exact gesture_protocol menu fun pressed => (presses pressed).1
  | setLocked locked elapsed =>
      apply unchanged
      · intro p is
        cases is
      · simp only [Device.step]
        split
        · rfl
        · rfl
  | setRawState raw =>
      apply unchanged
      · intro p is
        cases is
      · simp only [Device.step]
        split
        · rfl
        · rfl

theorem Called.recorded_boot (b : Board) : (Called.boot b).Recorded b := by
  constructor
  · intro g pressed
    cases pressed
  · intro g _
    rfl
  · exact .done false

/-- The polls open and close the menu in turn, navigate only in between, and never twice
with the same press. -/
theorem menu_protocol (b : Board) (menu : HasMenu b)
    (slow : 2 ≤ kMsToCycCeil64 b.cyclesPerSec 5) (es : List Event)
    (later : Along (Called.step b) (fun s => s.device.Later s.lastPoll) (Called.boot b) es) :
    (∃ opened, Protocol false (run (Called.step b) (Called.boot b) es).calls opened) ∧
      Along (Called.step b)
        (fun s e => ∀ p, e = .poll p → s.device.halted = false → Navigates b s.device p)
        (Called.boot b) es := by
  have preserved (s : Called) (e : Event) (later : s.device.Later s.lastPoll e)
      (recorded : s.Recorded b) :
      (s.step b e).Recorded b := Called.recorded_step menu slow later recorded
  have initial := Called.recorded_boot b
  constructor
  · have reached := run_invariant_of_legal preserved initial later
    exact ⟨_, reached.protocol⟩
  · apply along_of_legal preserved _ initial later
    intro s e later recorded p poll running
    rw [poll] at later
    exact navigates_of_recorded menu slow recorded later running

end Runs

def openAndGoDown : List Event :=
  [holding [.buttonMenu] 1000, holding [.buttonMenu, .stickDown] 1000, holding [] 1000]

/-- The menu is opened, the next press goes down, and letting go closes the menu. -/
theorem menu_protocol_down :
    (run (Called.step microdash) (Called.boot microdash) openAndGoDown).calls =
        [.openMenu, .input .down, .closeMenu] ∧
      ∃ opened, Protocol false [.openMenu, .input .down, .closeMenu] opened := by
  have later : Along (Called.step microdash) (fun s => s.device.Later s.lastPoll)
      (Called.boot microdash) openAndGoDown := by
    refine ⟨?_, ?_, ?_, trivial⟩
    · intro p last is running was
      cases was
    · intro p last is running was
      cases is
      cases was
      decide
    · intro p last is running was
      cases is
      cases was
      decide
  have calls : (run (Called.step microdash) (Called.boot microdash) openAndGoDown).calls =
      [.openMenu, .input .down, .closeMenu] := by decide
  have protocol := (menu_protocol microdash (by decide) (by decide) openAndGoDown later).1
  rw [calls] at protocol
  exact ⟨calls, protocol⟩

end PassingLink.Input
