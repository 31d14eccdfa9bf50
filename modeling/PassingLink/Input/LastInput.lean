import PassingLink.Input.Gesture

/-! Last input wins: the ticks of the debouncer stand for the order of the presses. -/
namespace PassingLink.Input
open Lib

abbrev Direction := Gpio × SOCDButtonType

def directionsX : List Direction := [(.stickLeft, .negative), (.stickRight, .positive)]

def directionsY (b : Board) : List Direction :=
  [(.stickUp, .negative), (.stickDown, .positive)] ++
  if b.available .buttonW then [(.buttonW, .negative)] else []

/-! ### The reference machine -/

/-- The held directions, newest first, after a poll. Of those pressed in the same poll the
positive ones come first. -/
def press (directions : List Direction) (pressed : Gpio → Bool) (held : List Direction) :
    List Direction :=
  let fresh := directions.filter fun dir => pressed dir.1 && decide (dir ∉ held)
  fresh.filter (fun dir => dir.2 = .positive) ++
    (fresh.filter (fun dir => dir.2 ≠ .positive) ++ held.filter fun dir => pressed dir.1)

def newestHeld (held : List Direction) : Int :=
  match held with
  | [] => 0
  | dir :: _ => dir.2.toInt

/-- The device, the tick of its last poll, and the reference machines of both axes. -/
structure Followed where
  device : Device
  lastPoll : Option Nat
  heldX : List Direction
  heldY : List Direction

def Followed.boot (b : Board) : Followed := ⟨Device.boot b, none, [], []⟩

def Followed.step (b : Board) (s : Followed) (e : Event) : Followed :=
  match e with
  | .poll p =>
      if s.device.halted then s
      else
        { device := s.device.step b e
          lastPoll := some (s.device.tick p)
          heldX := press directionsX (s.device.debounced b p) s.heldX
          heldY := press (directionsY b) (s.device.debounced b p) s.heldY }
  | _ => { s with device := s.device.step b e }

/-- With the default profile and last input wins, both axes follow their machines. -/
structure LastWins (b : Board) (s : Followed) (p : Poll) : Prop where
  x : s.device.activeProfileIdx = 0 → s.device.socdTypeX = .last →
    (∀ dir ∈ directionsX, b.available dir.1 = true) →
    (inputGetState b s.device p).stick.x.value = newestHeld (s.step b (.poll p)).heldX
  y : s.device.activeProfileIdx = 0 → s.device.socdTypeY = .last →
    (∀ dir ∈ directionsY b, b.available dir.1 = true) →
    (inputGetState b s.device p).stick.y.value = newestHeld (s.step b (.poll p)).heldY

/-! ### The order of the ticks -/

/-- The first press is newer than the second, or as new and wins the tie. -/
def Before (history : ButtonHistory) (x y : Direction) : Prop :=
  (history y.1).tick < (history x.1).tick ∨
    (history y.1).tick = (history x.1).tick ∧ (x.2 = .positive ∨ y.2 = .negative)

/-- The machine holds what the history has pressed, in the order of the ticks. -/
structure Ordered (history : ButtonHistory) (directions held : List Direction)
    (lastPoll : Option Nat) : Prop where
  state_iff : ∀ dir ∈ directions, (history dir.1).state = true ↔ dir ∈ held
  subset : ∀ dir ∈ held, dir ∈ directions
  sorted : held.Pairwise (Before history)
  past : ∀ dir ∈ held, ∃ last, lastPoll = some last ∧ (history dir.1).tick ≤ last

def Moves (now : Nat) (old new : Button) : Prop :=
  new = old ∨ new.state = !old.state ∧ new.tick = now

section Step
variable {history history' : ButtonHistory} {directions held : List Direction}
  {lastPoll : Option Nat} {now : Nat} {dir : Direction}

theorem mem_press {pressed : Gpio → Bool} :
    dir ∈ press directions pressed held ↔
      pressed dir.1 = true ∧ (dir ∈ directions ∧ dir ∉ held ∨ dir ∈ held) := by
  simp only [press, List.mem_append, List.mem_filter, Bool.and_eq_true, decide_eq_true_eq]
  constructor
  · rintro (⟨⟨member, pressed, new⟩, -⟩ | ⟨⟨member, pressed, new⟩, -⟩ | ⟨old, pressed⟩)
    · exact ⟨pressed, Or.inl ⟨member, new⟩⟩
    · exact ⟨pressed, Or.inl ⟨member, new⟩⟩
    · exact ⟨pressed, Or.inr old⟩
  · rintro ⟨pressed, ⟨member, new⟩ | old⟩
    · by_cases positive : dir.2 = .positive
      · exact Or.inl ⟨⟨member, pressed, new⟩, positive⟩
      · exact Or.inr (Or.inl ⟨⟨member, pressed, new⟩, positive⟩)
    · exact Or.inr (Or.inr ⟨old, pressed⟩)

theorem mem_fresh {pressed : Gpio → Bool} {side : Direction → Bool} :
    dir ∈ (directions.filter fun dir => pressed dir.1 && decide (dir ∉ held)).filter side ↔
      (dir ∈ directions ∧ pressed dir.1 = true ∧ dir ∉ held) ∧ side dir = true := by
  simp only [List.mem_filter, Bool.and_eq_true, decide_eq_true_eq]

theorem negative_of_sides {side : SOCDButtonType} (either : side ≠ .neutral)
    (other : side ≠ .positive) : side = .negative := by
  cases side with
  | positive => exact absurd rfl other
  | neutral => exact absurd rfl either
  | negative => rfl

theorem fresh_tick (ordered : Ordered history directions held lastPoll)
    (moves : ∀ dir ∈ directions, Moves now (history dir.1) (history' dir.1))
    (member : dir ∈ directions) (new : dir ∉ held) (pressed : (history' dir.1).state = true) :
    (history' dir.1).tick = now := by
  rcases moves dir member with same | ⟨-, tick⟩
  · rw [same] at pressed
    exact absurd ((ordered.state_iff dir member).mp pressed) new
  · exact tick

theorem kept_history (ordered : Ordered history directions held lastPoll)
    (moves : ∀ dir ∈ directions, Moves now (history dir.1) (history' dir.1))
    (old : dir ∈ held) (pressed : (history' dir.1).state = true) :
    history' dir.1 = history dir.1 := by
  rcases moves dir (ordered.subset dir old) with same | ⟨flipped, -⟩
  · exact same
  · have before := (ordered.state_iff dir (ordered.subset dir old)).mpr old
    rw [pressed, before] at flipped
    cases flipped

theorem ordered_step (ordered : Ordered history directions held lastPoll)
    (sides : ∀ dir ∈ directions, dir.2 ≠ .neutral)
    (moves : ∀ dir ∈ directions, Moves now (history dir.1) (history' dir.1))
    (later : ∀ last, lastPoll = some last → last < now) {pressed : Gpio → Bool}
    (levels : ∀ dir ∈ directions, pressed dir.1 = (history' dir.1).state) :
    Ordered history' directions (press directions pressed held) (some now) := by
  have fresh {dir : Direction} (member : dir ∈ directions ∧ pressed dir.1 = true ∧ dir ∉ held) :
      (history' dir.1).tick = now :=
    fresh_tick ordered moves member.1 member.2.2 ((levels dir member.1).symm.trans member.2.1)
  have kept {dir : Direction} (member : dir ∈ held ∧ pressed dir.1 = true) :
      history' dir.1 = history dir.1 := by
    have level := levels dir (ordered.subset dir member.1)
    exact kept_history ordered moves member.1 (level.symm.trans member.2)
  have old_tick {dir : Direction} (member : dir ∈ held ∧ pressed dir.1 = true) :
      (history' dir.1).tick < now := by
    obtain ⟨last, was, past⟩ := ordered.past dir member.1
    rw [kept member]
    exact Nat.lt_of_le_of_lt past (later last was)
  refine ⟨?_, ?_, ?_, ?_⟩
  · intro dir member
    rw [mem_press, levels dir member]
    by_cases holds : dir ∈ held
    · simp only [holds, or_true, and_true]
    · simp only [member, holds, not_false_eq_true, and_self, or_false, and_true]
  · intro dir member
    rcases (mem_press.mp member).2 with ⟨is, -⟩ | old
    · exact is
    · exact ordered.subset dir old
  · simp only [press, List.pairwise_append, List.mem_append, List.mem_filter, Bool.and_eq_true,
      decide_eq_true_eq]
    refine ⟨?positives, ⟨?others, ?kept, ?othersKept⟩, ?positivesFirst⟩
    case positives =>
      apply List.pairwise_of_forall_mem_list
      intro x hx y hy
      obtain ⟨isX, positive⟩ := mem_fresh.mp hx
      obtain ⟨isY, -⟩ := mem_fresh.mp hy
      exact Or.inr ⟨(fresh isY).trans (fresh isX).symm, Or.inl (of_decide_eq_true positive)⟩
    case others =>
      apply List.pairwise_of_forall_mem_list
      intro x hx y hy
      obtain ⟨isX, -⟩ := mem_fresh.mp hx
      obtain ⟨isY, other⟩ := mem_fresh.mp hy
      have negative := negative_of_sides (sides y isY.1) (of_decide_eq_true other)
      exact Or.inr ⟨(fresh isY).trans (fresh isX).symm, Or.inr negative⟩
    case kept =>
      rw [List.pairwise_filter]
      apply ordered.sorted.imp_of_mem
      intro x y hx hy before onX onY
      rw [Before, kept ⟨hx, onX⟩, kept ⟨hy, onY⟩]
      exact before
    case othersKept =>
      rintro x ⟨isX, -⟩ y isY
      exact Or.inl (Nat.lt_of_lt_of_eq (old_tick isY) (fresh isX).symm)
    case positivesFirst =>
      rintro x ⟨isX, positive⟩ y (⟨isY, -⟩ | isY)
      · exact Or.inr ⟨(fresh isY).trans (fresh isX).symm, Or.inl positive⟩
      · exact Or.inl (Nat.lt_of_lt_of_eq (old_tick isY) (fresh isX).symm)
  · intro dir member
    refine ⟨now, rfl, ?_⟩
    rcases (mem_press.mp member) with ⟨held, ⟨is, new⟩ | old⟩
    · exact Nat.le_of_eq (fresh ⟨is, held, new⟩)
    · exact Nat.le_of_lt (old_tick ⟨old, held⟩)

end Step

/-! ### The value of the axis -/

section Value
variable {raw : RawInputState} {history : ButtonHistory} {directions held : List Direction}
  {lastPoll : Option Nat}

def axisInputs (raw : RawInputState) (history : ButtonHistory) (directions : List Direction) :
    List SOCDInputs :=
  directions.map fun dir => socdInput raw history dir.1 dir.2 false

theorem defaultSocdY_eq (b : Board) (raw : RawInputState) (history : ButtonHistory) :
    defaultSocdY b raw history = axisInputs raw history (directionsY b) := by
  unfold defaultSocdY directionsY
  split <;> rfl

theorem axisInputs_plain : ∀ input ∈ axisInputs raw history directions,
    input.inputValue = true → input.overrides = false := by
  intro input member _
  obtain ⟨dir, -, rfl⟩ := List.mem_map.mp member
  rfl

theorem mem_pressedTicks (ordered : Ordered history directions held lastPoll)
    (levels : ∀ dir ∈ directions, raw dir.1 = (history dir.1).state) {side : SOCDButtonType}
    {tick : Nat} :
    tick ∈ pressedTicks side (axisInputs raw history directions) ↔
      ∃ dir ∈ held, dir.2 = side ∧ (history dir.1).tick = tick := by
  simp only [pressedTicks, axisInputs, List.mem_map, List.mem_filter, Bool.and_eq_true,
    decide_eq_true_eq]
  constructor
  · rintro ⟨-, ⟨⟨dir, member, rfl⟩, pressed, rfl⟩, rfl⟩
    refine ⟨dir, (ordered.state_iff dir member).mp ?_, rfl, rfl⟩
    rw [← levels dir member]
    exact pressed
  · rintro ⟨dir, holds, rfl, rfl⟩
    have member := ordered.subset dir holds
    refine ⟨_, ⟨⟨dir, member, rfl⟩, ?_, rfl⟩, rfl⟩
    rw [socdInput, levels dir member]
    exact (ordered.state_iff dir member).mpr holds

theorem resolve_positive {positive negative : List Nat} {tick : Nat} (member : tick ∈ positive)
    (newest : ∀ other ∈ negative, other ≤ tick) :
    (socdResolve .last ⟨positive.max?, none, negative.max?⟩).value = 1 := by
  obtain ⟨p, greatest⟩ : ∃ p, positive.max? = some p :=
    Option.ne_none_iff_exists'.mp fun nothing =>
      List.ne_nil_of_mem member (List.max?_eq_none_iff.mp nothing)
  have bound := (List.max?_eq_some_iff.mp greatest).2 tick member
  cases other : negative.max? with
  | none => simp only [greatest, socdResolve, lastX]
  | some n =>
      have older := newest n (List.max?_eq_some_iff.mp other).1
      have tie : ¬ p < n := by omega
      simp only [greatest, socdResolve, lastX, if_neg tie]

theorem resolve_negative {positive negative : List Nat} {tick : Nat} (member : tick ∈ negative)
    (newest : ∀ other ∈ positive, other < tick) :
    (socdResolve .last ⟨positive.max?, none, negative.max?⟩).value = -1 := by
  obtain ⟨n, greatest⟩ : ∃ n, negative.max? = some n :=
    Option.ne_none_iff_exists'.mp fun nothing =>
      List.ne_nil_of_mem member (List.max?_eq_none_iff.mp nothing)
  have bound := (List.max?_eq_some_iff.mp greatest).2 tick member
  cases other : positive.max? with
  | none => simp only [greatest, socdResolve, lastX]
  | some p =>
      have older := newest p (List.max?_eq_some_iff.mp other).1
      have newer : p < n := by omega
      simp only [greatest, socdResolve, lastX, if_pos newer]

/-- The newest press decides. -/
theorem last_value (ordered : Ordered history directions held lastPoll)
    (sides : ∀ dir ∈ directions, dir.2 ≠ .neutral)
    (levels : ∀ dir ∈ directions, raw dir.1 = (history dir.1).state) :
    (inputSocdParse .last (axisInputs raw history directions)).value = newestHeld held := by
  have ticks (side : SOCDButtonType) (tick : Nat) :
      tick ∈ pressedTicks side (axisInputs raw history directions) ↔
        ∃ dir ∈ held, dir.2 = side ∧ (history dir.1).tick = tick := mem_pressedTicks ordered levels
  have neutral : (pressedTicks .neutral (axisInputs raw history directions)).max? = none := by
    rw [List.max?_eq_none_iff, List.eq_nil_iff_forall_not_mem]
    intro tick member
    obtain ⟨dir, holds, side, -⟩ := (ticks _ tick).mp member
    exact sides dir (ordered.subset dir holds) side
  rw [inputSocdParse_plain axisInputs_plain, neutral]
  have positives := ticks .positive
  have negatives := ticks .negative
  generalize pressedTicks .positive (axisInputs raw history directions) = ps at positives
  generalize pressedTicks .negative (axisInputs raw history directions) = ns at negatives
  cases held with
  | nil =>
      have noPositive : ps = [] := List.eq_nil_iff_forall_not_mem.mpr fun tick member => by
        obtain ⟨dir, nowhere, -⟩ := (positives tick).mp member
        exact absurd nowhere List.not_mem_nil
      have noNegative : ns = [] := List.eq_nil_iff_forall_not_mem.mpr fun tick member => by
        obtain ⟨dir, nowhere, -⟩ := (negatives tick).mp member
        exact absurd nowhere List.not_mem_nil
      rw [noPositive, noNegative]
      rfl
  | cons newest rest =>
      have others (dir : Direction) (holds : dir ∈ newest :: rest) (other : dir.2 ≠ newest.2) :
          Before history newest dir := by
        rcases List.mem_cons.mp holds with rfl | later
        · exact absurd rfl other
        · exact List.rel_of_pairwise_cons ordered.sorted later
      by_cases positive : newest.2 = .positive
      · rw [newestHeld, positive]
        refine resolve_positive ((positives _).mpr ⟨newest, List.mem_cons_self, positive, rfl⟩) ?_
        intro tick member
        obtain ⟨dir, holds, negative, rfl⟩ := (negatives tick).mp member
        rcases others dir holds (by rw [negative, positive]; decide) with older | ⟨same, -⟩
        · exact Nat.le_of_lt older
        · exact Nat.le_of_eq same
      · have negative := negative_of_sides (sides _ (ordered.subset _ List.mem_cons_self)) positive
        rw [newestHeld, negative]
        refine resolve_negative ((negatives _).mpr ⟨newest, List.mem_cons_self, negative, rfl⟩) ?_
        intro tick member
        obtain ⟨dir, holds, side, rfl⟩ := (positives tick).mp member
        rcases others dir holds (by rw [side, negative]; decide) with older | ⟨-, tie⟩
        · exact older
        · rw [negative, side] at tie
          rcases tie with is | is <;> cases is

end Value

/-! ### Runs -/

variable {b : Board}

structure Following (b : Board) (s : Followed) : Prop where
  x : (∀ dir ∈ directionsX, b.available dir.1 = true) →
    Ordered s.device.buttonHistory directionsX s.heldX s.lastPoll
  y : (∀ dir ∈ directionsY b, b.available dir.1 = true) →
    Ordered s.device.buttonHistory (directionsY b) s.heldY s.lastPoll

theorem sidesX : ∀ dir ∈ directionsX, dir.2 ≠ .neutral := by decide

theorem sidesY (b : Board) : ∀ dir ∈ directionsY b, dir.2 ≠ .neutral := by
  unfold directionsY
  split <;> decide

theorem moves_of_poll {d : Device} {g : Gpio} (available : b.available g = true) (p : Poll) :
    Moves (d.tick p) (d.buttonHistory g) (d.history b p g) := by
  rw [history_available available]
  rcases inputDebounce_cases (kMsToCycCeil64 b.cyclesPerSec 5) (inputGetRawState b d p g)
    (d.buttonHistory g) (d.tick p) with ⟨same, -⟩ | ⟨changed, differs, -⟩
  · exact Or.inl same
  · rw [changed]
    exact Or.inr ⟨Bool.eq_not.mpr differs, rfl⟩

theorem poll_ordered {d : Device} {directions held : List Direction} {lastPoll : Option Nat}
    (available : ∀ dir ∈ directions, b.available dir.1 = true)
    (sides : ∀ dir ∈ directions, dir.2 ≠ .neutral)
    (ordered : Ordered d.buttonHistory directions held lastPoll) {p : Poll}
    (later : ∀ last, lastPoll = some last → last < d.tick p) :
    Ordered (d.history b p) directions (press directions (d.debounced b p) held)
      (some (d.tick p)) :=
  ordered_step ordered sides (fun dir member => moves_of_poll (available dir member) p) later
    fun dir member => (history_state (available dir member)).symm

theorem following_step {s : Followed} {e : Event} (later : s.device.Later s.lastPoll e)
    (following : Following b s) :
    Following b (s.step b e) := by
  have unchanged (other : ∀ p, e ≠ .poll p) :
      Following b { s with device := s.device.step b e } := by
    have kept := (step_other_history (b := b) (d := s.device) other).1
    refine ⟨fun available => ?_, fun available => ?_⟩
    · rw [kept]
      exact following.x available
    · rw [kept]
      exact following.y available
  cases e with
  | poll p =>
      cases halted : s.device.halted with
      | true =>
          simp only [Followed.step, halted, if_true]
          exact following
      | false =>
          have recorded : (s.device.step b (.poll p)).buttonHistory = s.device.history b p := by
            rw [step_poll halted, poll_buttonHistory]
          simp only [Followed.step, halted, Bool.false_eq_true, if_false]
          refine ⟨fun available => ?_, fun available => ?_⟩
          · rw [recorded]
            exact poll_ordered available sidesX (following.x available)
              fun last => later p last rfl halted
          · rw [recorded]
            exact poll_ordered available (sidesY b) (following.y available)
              fun last => later p last rfl halted
  | setLocked | setRawState => exact unchanged (by intro p is; cases is)

theorem lastWins_of_following {s : Followed} {p : Poll}
    (later : s.device.Later s.lastPoll (.poll p)) (running : s.device.halted = false)
    (following : Following b s) : LastWins b s p := by
  have default (idx : s.device.activeProfileIdx = 0) : s.device.profile b = defaultProfile b := by
    simp only [Device.profile, idx, activeProfile, profiles]
    split <;> rfl
  constructor
  · intro idx last available
    have ordered := poll_ordered available sidesX (following.x available)
      fun tick => later p tick rfl running
    simp only [poll_eq, Device.stick, inputSocd, default idx, last, Followed.step, running,
      Bool.false_eq_true, if_false]
    exact last_value ordered sidesX fun dir member => (history_state (available dir member)).symm
  · intro idx last available
    have ordered := poll_ordered available (sidesY b) (following.y available)
      fun tick => later p tick rfl running
    simp only [poll_eq, Device.stick, inputSocd, default idx, last, Followed.step, running,
      Bool.false_eq_true, if_false, defaultProfile, defaultSocdY_eq]
    exact last_value ordered (sidesY b)
      fun dir member => (history_state (available dir member)).symm

theorem following_boot (b : Board) : Following b (Followed.boot b) := by
  have released (directions : List Direction) :
      Ordered (Device.boot b).buttonHistory directions [] none := by
    constructor
    · intro dir _
      constructor
      · intro pressed
        cases pressed
      · intro nowhere
        exact absurd nowhere List.not_mem_nil
    · intro dir nowhere
      exact absurd nowhere List.not_mem_nil
    · exact .nil
    · intro dir nowhere
      exact absurd nowhere List.not_mem_nil
  constructor
  · intro _
    exact released _
  · intro _
    exact released _

theorem last_input_wins (b : Board) (es : List Event)
    (later : Along (Followed.step b) (fun s => s.device.Later s.lastPoll) (Followed.boot b) es) :
    Along (Followed.step b)
      (fun s e => ∀ p, e = .poll p → s.device.halted = false → LastWins b s p)
      (Followed.boot b) es := by
  refine along_of_legal (fun s e => following_step) ?_ (following_boot b) later
  rintro s e later following p rfl running
  exact lastWins_of_following later running following

def Event.advances : Event → Bool
  | .poll p => decide (0 < p.elapsed)
  | .setLocked _ _ | .setRawState _ => true

theorem later_of_advances {es : List Event} (advances : es.all Event.advances = true) :
    Along (Followed.step b) (fun s => s.device.Later s.lastPoll) (Followed.boot b) es := by
  have legal : Along (Followed.step b) (fun _ e => Event.advances e = true) (Followed.boot b) es :=
    along_of_forall (fun e member _ => List.all_eq_true.mp advances e member) _
  let Inv (s : Followed) : Prop := ∀ last, s.lastPoll = some last → last ≤ s.device.clock
  have preserved (s : Followed) (e : Event) (_ : Event.advances e = true) (past : Inv s) :
      Inv (s.step b e) := by
    intro last was
    cases e with
    | poll p =>
        cases halted : s.device.halted with
        | true =>
            simp only [Followed.step, halted, if_true] at was ⊢
            exact past last was
        | false =>
            simp only [Followed.step, halted, Bool.false_eq_true, if_false, Option.some.injEq] at was ⊢
            rw [step_poll halted, poll_clock, ← was]
            exact Nat.le_add_right _ _
    | setLocked locked elapsed =>
        have kept := step_other_history (b := b) (d := s.device) (e := .setLocked locked elapsed)
            (by intro p is; cases is)
        exact Nat.le_trans (past last was) kept.2
    | setRawState raw =>
        have kept := step_other_history (b := b) (d := s.device) (e := .setRawState raw)
            (by intro p is; cases is)
        exact Nat.le_trans (past last was) kept.2
  have initial : Inv (Followed.boot b) := by
    rintro last ⟨⟩
  refine along_of_legal preserved ?_ initial legal
  rintro s e advances past p last rfl - was
  have elapsed : 0 < p.elapsed := of_decide_eq_true advances
  have before := past last was
  simp only [Device.tick]
  omega

/-- On the handheld board: the menu button held, and the presses that select last input wins
for the x axis (Output, SOCD, X axis, Last). -/
def selectLast : List Event :=
  holding [.buttonMenu] 1000 ::
    [Gpio.stickDown, .stickRight, .stickDown, .stickDown, .stickRight, .stickRight, .stickDown,
      .stickRight].flatMap fun g =>
        [holding [.buttonMenu, g] 1000, holding [.buttonMenu] 1000]

/-- Left, then right as well, then right is released: the axis is back at left. -/
theorem older_direction_returns :
    (inputGetState microdash
      (run (Followed.step microdash) (Followed.boot microdash)
        (selectLast ++ [holding [] 1000, holding [.stickLeft] 1000,
          holding [.stickLeft, .stickRight] 1000])).device
      (Poll.holding [.stickLeft] 1000)).stick.x.value = -1 := by
  have wins := last_input_wins microdash
    (selectLast ++ [holding [] 1000, holding [.stickLeft] 1000,
      holding [.stickLeft, .stickRight] 1000, holding [.stickLeft] 1000])
    (later_of_advances (by decide))
  have last := (along_iff_split _ _).mp wins
    (selectLast ++ [holding [] 1000, holding [.stickLeft] 1000,
      holding [.stickLeft, .stickRight] 1000]) (holding [.stickLeft] 1000) [] rfl _ rfl
    (by decide +kernel)
  exact (last.x (by decide +kernel) (by decide +kernel) (by decide)).trans (by decide +kernel)

end PassingLink.Input
