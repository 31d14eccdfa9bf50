import PassingLink.Input.Types

/-! Resolution of opposing directions, `socd.cpp`. -/
namespace PassingLink.Input

inductive SOCDType where
  | neutral
  | last
  | negative
  | positive
  deriving DecidableEq, Repr

inductive SOCDButtonType where
  | positive
  | neutral
  | negative
  deriving DecidableEq, Repr

def SOCDButtonType.toInt : SOCDButtonType → Int
  | .positive => 1
  | .neutral => 0
  | .negative => -1

structure SOCDInputs where
  inputValue : Bool
  inputTick : Nat
  buttonType : SOCDButtonType
  overrides : Bool := false
  deriving DecidableEq, Repr

structure Axis where
  value : Int
  tick : Nat
  deriving DecidableEq, Repr

structure StickOutput where
  x : Axis
  y : Axis
  deriving DecidableEq, Repr

structure Newest where
  positive : Option Nat
  neutral : Option Nat
  negative : Option Nat
  deriving DecidableEq, Repr

/-- `if (!*target || **target < tick) target->reset(tick)`. -/
def newer (target : Option Nat) (tick : Nat) : Option Nat :=
  match target with
  | none => some tick
  | some old => if old < tick then some tick else some old

def Newest.update (newest : Newest) (input : SOCDInputs) : Newest :=
  match input.buttonType with
  | .positive => { newest with positive := newer newest.positive input.inputTick }
  | .neutral => { newest with neutral := newer newest.neutral input.inputTick }
  | .negative => { newest with negative := newer newest.negative input.inputTick }

/-- The loop of `input_socd_parse`; an overriding input returns from the function. -/
def socdLoop : List SOCDInputs → Newest → Except Axis Newest
  | [], newest => .ok newest
  | input :: inputs, newest =>
      if input.inputValue then
        if input.overrides then .error ⟨input.buttonType.toInt, input.inputTick⟩
        else socdLoop inputs (newest.update input)
      else socdLoop inputs newest

/-- The macro `X`, with `newest_tick` and `newest_value` as a pair. -/
def lastX (newest : Option (Nat × Int)) (tick : Option Nat) (value : Int) : Option (Nat × Int) :=
  match tick with
  | none => newest
  | some t =>
      match newest with
      | none => some (t, value)
      | some (old, _) => if old < t then some (t, value) else newest

def socdResolve (type : SOCDType) (newest : Newest) : Axis :=
  match type with
  | .neutral =>
      { value := (if newest.positive.isSome then 1 else 0) - (if newest.negative.isSome then 1 else 0)
        tick := max (newest.positive.getD 0) (newest.negative.getD 0) }
  | .positive =>
      match newest.positive, newest.negative with
      | some tick, _ => ⟨1, tick⟩
      | none, some tick => ⟨-1, tick⟩
      | none, none => ⟨0, 0⟩
  | .negative =>
      match newest.negative, newest.positive with
      | some tick, _ => ⟨-1, tick⟩
      | none, some tick => ⟨1, tick⟩
      | none, none => ⟨0, 0⟩
  | .last =>
      let winner := lastX (lastX (lastX none newest.positive 1) newest.neutral 0) newest.negative (-1)
      match winner with
      | some (tick, value) => ⟨value, tick⟩
      | none => ⟨0, 0⟩

def inputSocdParse (type : SOCDType) (inputs : List SOCDInputs) : Axis :=
  match socdLoop inputs ⟨none, none, none⟩ with
  | .error axis => axis
  | .ok newest => socdResolve type newest

/-! ### Without a pressed override only the greatest tick of each side matters -/

def pressedTicks (type : SOCDButtonType) (inputs : List SOCDInputs) : List Nat :=
  (inputs.filter fun input => input.inputValue && input.buttonType = type).map
    SOCDInputs.inputTick

theorem newer_some (old tick : Nat) : newer (some old) tick = some (max old tick) := by
  simp only [newer]
  split
  · rw [Nat.max_eq_right (by omega)]
  · rw [Nat.max_eq_left (by omega)]

theorem foldl_newer_some (old : Nat) (ticks : List Nat) :
    ticks.foldl newer (some old) = some (ticks.foldl max old) := by
  induction ticks generalizing old with
  | nil => rfl
  | cons tick ticks ih => rw [List.foldl_cons, newer_some, ih, List.foldl_cons]

theorem foldl_newer_none (ticks : List Nat) : ticks.foldl newer none = ticks.max? := by
  cases ticks with
  | nil => rfl
  | cons tick ticks => exact foldl_newer_some tick ticks

theorem socdLoop_plain {inputs : List SOCDInputs}
    (plain : ∀ input ∈ inputs, input.inputValue = true → input.overrides = false)
    (newest : Newest) :
    socdLoop inputs newest =
      .ok
        { positive := (pressedTicks .positive inputs).foldl newer newest.positive
          neutral := (pressedTicks .neutral inputs).foldl newer newest.neutral
          negative := (pressedTicks .negative inputs).foldl newer newest.negative } := by
  induction inputs generalizing newest with
  | nil => rfl
  | cons input inputs ih =>
      have rest := ih (fun other member => plain other (List.mem_cons_of_mem input member))
      cases pressed : input.inputValue with
      | false =>
          simp only [socdLoop, pressed, Bool.false_eq_true, if_false, rest, pressedTicks,
            List.filter_cons, Bool.false_and]
      | true =>
          have free := plain input List.mem_cons_self pressed
          simp only [socdLoop, pressed, free, if_true, Bool.false_eq_true, if_false, rest]
          cases side : input.buttonType <;>
            simp only [Newest.update, side, pressedTicks, List.filter_cons, pressed, Bool.true_and,
              decide_true, if_true, reduceCtorEq, decide_false, Bool.false_eq_true, if_false,
              List.map_cons, List.foldl_cons]

theorem inputSocdParse_plain {inputs : List SOCDInputs}
    (plain : ∀ input ∈ inputs, input.inputValue = true → input.overrides = false)
    (type : SOCDType) :
    inputSocdParse type inputs =
      socdResolve type ⟨(pressedTicks .positive inputs).max?, (pressedTicks .neutral inputs).max?,
        (pressedTicks .negative inputs).max?⟩ := by
  simp only [inputSocdParse, socdLoop_plain plain, foldl_newer_none]

/-! ### The range of the result -/

def Axis.InRange (axis : Axis) : Prop := axis.value = -1 ∨ axis.value = 0 ∨ axis.value = 1

theorem SOCDButtonType.toInt_inRange (type : SOCDButtonType) (tick : Nat) :
    Axis.InRange ⟨type.toInt, tick⟩ := by
  cases type with
  | positive => exact Or.inr (Or.inr rfl)
  | neutral => exact Or.inr (Or.inl rfl)
  | negative => exact Or.inl rfl

theorem socdLoop_error {inputs : List SOCDInputs} {newest : Newest} {axis : Axis}
    (stopped : socdLoop inputs newest = .error axis) : axis.InRange := by
  induction inputs generalizing newest with
  | nil => cases stopped
  | cons input inputs ih =>
      simp only [socdLoop] at stopped
      split at stopped
      · split at stopped
        · obtain rfl := Except.error.inj stopped
          exact input.buttonType.toInt_inRange _
        · exact ih stopped
      · exact ih stopped

theorem lastX_value {newest : Option (Nat × Int)} {tick : Option Nat} {value : Int}
    {result : Nat × Int} (won : lastX newest tick value = some result) :
    result.2 = value ∨ newest = some result := by
  unfold lastX at won
  split at won
  · exact Or.inr won
  · split at won
    · exact Or.inl (by rw [← Option.some.inj won])
    · split at won
      · exact Or.inl (by rw [← Option.some.inj won])
      · exact Or.inr won

theorem socdResolve_inRange (type : SOCDType) (newest : Newest) :
    (socdResolve type newest).InRange := by
  cases type with
  | neutral =>
      simp only [Axis.InRange, socdResolve]
      split <;> split <;> decide
  | positive =>
      simp only [socdResolve]
      split
      · exact Or.inr (Or.inr rfl)
      · exact Or.inl rfl
      · exact Or.inr (Or.inl rfl)
  | negative =>
      simp only [socdResolve]
      split
      · exact Or.inl rfl
      · exact Or.inr (Or.inr rfl)
      · exact Or.inr (Or.inl rfl)
  | last =>
      simp only [Axis.InRange, socdResolve]
      split
      · rename_i tick value won
        rcases lastX_value won with negative | won
        · exact Or.inl negative
        rcases lastX_value won with neutral | won
        · exact Or.inr (Or.inl neutral)
        rcases lastX_value won with positive | neither
        · exact Or.inr (Or.inr positive)
        · cases neither
      · exact Or.inr (Or.inl rfl)

theorem inputSocdParse_inRange (type : SOCDType) (inputs : List SOCDInputs) :
    (inputSocdParse type inputs).InRange := by
  unfold inputSocdParse
  split
  · exact socdLoop_error ‹_›
  · exact socdResolve_inRange type _

end PassingLink.Input
