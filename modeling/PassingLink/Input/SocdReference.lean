import PassingLink.Input.Socd
import PassingLink.Lib.Greatest

/-! What the four policies of `socd.h` ask for, against the one loop of `socd.cpp`. -/
namespace PassingLink.Input
open Lib

def greatestTick (side : SOCDButtonType) (inputs : List SOCDInputs) : Option Nat :=
  (pressedTicks side inputs).max?

/-- The newest of the axes, the earlier one of two with the same tick. -/
def newestAxis (axes : List Axis) : Axis := (firstGreatest Axis.tick axes).getD ⟨0, 0⟩

def SOCDButtonType.axis (side : SOCDButtonType) (tick : Option Nat) : Option Axis :=
  tick.map fun t => ⟨side.toInt, t⟩

/-- A pressed override decides; otherwise the greatest tick of each side does. -/
def socdReference (type : SOCDType) (inputs : List SOCDInputs) : Axis :=
  match inputs.find? fun input => input.inputValue && input.overrides with
  | some input => ⟨input.buttonType.toInt, input.inputTick⟩
  | none =>
      let p := greatestTick .positive inputs
      let z := greatestTick .neutral inputs
      let n := greatestTick .negative inputs
      match type with
      | .neutral =>
          { value := (if p.isSome then 1 else 0) - (if n.isSome then 1 else 0)
            tick := max (p.getD 0) (n.getD 0) }
      | .positive =>
          ((SOCDButtonType.positive.axis p).or (SOCDButtonType.negative.axis n)).getD ⟨0, 0⟩
      | .negative =>
          ((SOCDButtonType.negative.axis n).or (SOCDButtonType.positive.axis p)).getD ⟨0, 0⟩
      | .last =>
          newestAxis
            ((SOCDButtonType.positive.axis p).toList ++ (SOCDButtonType.neutral.axis z).toList ++
              (SOCDButtonType.negative.axis n).toList)

/-! ### The early return -/

def Plain (inputs : List SOCDInputs) : Prop :=
  ∀ input ∈ inputs, input.inputValue = true → input.overrides = false

instance (inputs : List SOCDInputs) : Decidable (Plain inputs) :=
  inferInstanceAs (Decidable (∀ _ ∈ inputs, _))

theorem plain_iff_find (inputs : List SOCDInputs) :
    Plain inputs ↔ (inputs.find? fun input => input.inputValue && input.overrides) = none := by
  simp only [Plain, List.find?_eq_none, Bool.and_eq_true, not_and, Bool.not_eq_true]

theorem socdLoop_override {inputs : List SOCDInputs} {first : SOCDInputs}
    (found : (inputs.find? fun input => input.inputValue && input.overrides) = some first)
    (newest : Newest) :
    socdLoop inputs newest = .error ⟨first.buttonType.toInt, first.inputTick⟩ := by
  induction inputs generalizing newest with
  | nil => cases found
  | cons input inputs ih =>
      rw [List.find?_cons] at found
      cases pressed : input.inputValue with
      | false =>
          rw [pressed, Bool.false_and] at found
          simp only [socdLoop, pressed, Bool.false_eq_true, if_false]
          exact ih found newest
      | true =>
          rw [pressed, Bool.true_and] at found
          cases overrides : input.overrides with
          | false =>
              rw [overrides] at found
              simp only [socdLoop, pressed, overrides, Bool.false_eq_true, if_true, if_false]
              exact ih found (newest.update input)
          | true =>
              rw [overrides] at found
              obtain rfl := Option.some.inj found
              simp only [socdLoop, pressed, overrides, if_true]

/-! ### The result of each policy -/

def Axis.pair (axis : Axis) : Nat × Int := (axis.tick, axis.value)

theorem lastX_eq (best : Option Axis) (side : SOCDButtonType) (tick : Option Nat) :
    lastX (best.map Axis.pair) tick side.toInt =
      ((side.axis tick).toList.foldl (keepGreater Axis.tick) best).map Axis.pair := by
  cases tick with
  | none => rfl
  | some t =>
      cases best with
      | none => rfl
      | some old =>
          simp only [lastX, Option.map_some, SOCDButtonType.axis, Option.toList_some,
            List.foldl_cons, List.foldl_nil, keepGreater, Axis.pair]
          split <;> rfl

theorem socdResolve_last (p z n : Option Nat) :
    socdResolve .last ⟨p, z, n⟩ =
      newestAxis
        ((SOCDButtonType.positive.axis p).toList ++ (SOCDButtonType.neutral.axis z).toList ++
          (SOCDButtonType.negative.axis n).toList) := by
  have won : lastX (lastX (lastX none p 1) z 0) n (-1) =
      (firstGreatest Axis.tick ((SOCDButtonType.positive.axis p).toList ++
        (SOCDButtonType.neutral.axis z).toList ++
        (SOCDButtonType.negative.axis n).toList)).map Axis.pair := by
    have first := lastX_eq none .positive p
    have second := lastX_eq ((SOCDButtonType.positive.axis p).toList.foldl
      (keepGreater Axis.tick) none) .neutral z
    rw [← first, ← List.foldl_append] at second
    have third := lastX_eq (((SOCDButtonType.positive.axis p).toList ++
      (SOCDButtonType.neutral.axis z).toList).foldl (keepGreater Axis.tick) none) .negative n
    rw [← second, ← List.foldl_append, foldl_keepGreater] at third
    exact third
  simp only [socdResolve, won, newestAxis]
  cases firstGreatest Axis.tick _ with
  | none => rfl
  | some axis => rfl

theorem socdResolve_reference (type : SOCDType) {inputs : List SOCDInputs} (plain : Plain inputs) :
    socdResolve type ⟨greatestTick .positive inputs, greatestTick .neutral inputs,
      greatestTick .negative inputs⟩ = socdReference type inputs := by
  rw [socdReference, (plain_iff_find inputs).mp plain]
  generalize greatestTick .positive inputs = p
  generalize greatestTick .neutral inputs = z
  generalize greatestTick .negative inputs = n
  cases type with
  | neutral => rfl
  | positive => cases p <;> cases n <;> rfl
  | negative => cases p <;> cases n <;> rfl
  | last => exact socdResolve_last p z n

theorem inputSocdParse_override {inputs : List SOCDInputs} {first : SOCDInputs}
    (found : (inputs.find? fun input => input.inputValue && input.overrides) = some first)
    (type : SOCDType) :
    inputSocdParse type inputs = ⟨first.buttonType.toInt, first.inputTick⟩ := by
  rw [inputSocdParse, socdLoop_override found]

theorem inputSocdParse_eq (type : SOCDType) (inputs : List SOCDInputs) :
    inputSocdParse type inputs = socdReference type inputs := by
  cases found : inputs.find? fun input => input.inputValue && input.overrides with
  | none =>
      have plain := (plain_iff_find inputs).mpr found
      rw [inputSocdParse_plain plain]
      exact socdResolve_reference type plain
  | some first => rw [inputSocdParse_override found, socdReference, found]

/-! ### What the result depends on -/

theorem mem_pressedTicks_iff {side : SOCDButtonType} {inputs : List SOCDInputs} {tick : Nat} :
    tick ∈ pressedTicks side inputs ↔
      ∃ input ∈ inputs, input.inputValue = true ∧ input.buttonType = side ∧
        input.inputTick = tick := by
  simp only [pressedTicks, List.mem_map, List.mem_filter, Bool.and_eq_true, decide_eq_true_eq,
    and_assoc]

theorem max?_congr {xs ys : List Nat} (same : ∀ x, x ∈ xs ↔ x ∈ ys) : xs.max? = ys.max? := by
  cases greatest : ys.max? with
  | none =>
      obtain rfl := List.max?_eq_none_iff.mp greatest
      rw [List.max?_eq_none_iff, List.eq_nil_iff_forall_not_mem]
      intro x member
      exact List.not_mem_nil ((same x).mp member)
  | some top =>
      obtain ⟨member, bound⟩ := List.max?_eq_some_iff.mp greatest
      rw [List.max?_eq_some_iff]
      exact ⟨(same top).mpr member, fun x is => bound x ((same x).mp is)⟩

/-- The two lists have the same pressed inputs, in whatever order and number. -/
def SamePressed (inputs other : List SOCDInputs) : Prop :=
  ∀ input, input.inputValue = true → (input ∈ other ↔ input ∈ inputs)

theorem greatestTick_congr {inputs other : List SOCDInputs} (same : SamePressed inputs other)
    (side : SOCDButtonType) : greatestTick side other = greatestTick side inputs := by
  apply max?_congr
  intro tick
  rw [mem_pressedTicks_iff, mem_pressedTicks_iff]
  constructor
  · rintro ⟨input, member, pressed, is⟩
    exact ⟨input, (same input pressed).mp member, pressed, is⟩
  · rintro ⟨input, member, pressed, is⟩
    exact ⟨input, (same input pressed).mpr member, pressed, is⟩

theorem inputSocdParse_congr {inputs other : List SOCDInputs} (plain : Plain inputs)
    (same : SamePressed inputs other) (type : SOCDType) :
    inputSocdParse type other = inputSocdParse type inputs := by
  have plainOther : Plain other := fun input member pressed =>
    plain input ((same input pressed).mp member) pressed
  rw [inputSocdParse_plain plain, inputSocdParse_plain plainOther]
  have positive := greatestTick_congr same .positive
  have neutral := greatestTick_congr same .neutral
  have negative := greatestTick_congr same .negative
  simp only [greatestTick] at positive neutral negative
  rw [positive, neutral, negative]

/-! ### Where a direction comes from -/

/-- Some pressed input has the axis' direction and its tick. -/
def Carried (inputs : List SOCDInputs) (axis : Axis) : Prop :=
  ∃ input ∈ inputs, input.inputValue = true ∧ input.buttonType.toInt = axis.value ∧
    input.inputTick = axis.tick

theorem carried_of_greatest {inputs : List SOCDInputs} {side : SOCDButtonType} {tick : Nat}
    (greatest : greatestTick side inputs = some tick) : Carried inputs ⟨side.toInt, tick⟩ := by
  have member := (List.max?_eq_some_iff.mp greatest).1
  obtain ⟨input, inside, pressed, rfl, is⟩ := mem_pressedTicks_iff.mp member
  exact ⟨input, inside, pressed, rfl, is⟩

theorem carried_of_axis {inputs : List SOCDInputs} {side : SOCDButtonType} {axis : Axis}
    (is : axis ∈ (side.axis (greatestTick side inputs)).toList) : Carried inputs axis := by
  rw [Option.mem_toList, SOCDButtonType.axis, Option.map_eq_some_iff] at is
  obtain ⟨tick, greatest, rfl⟩ := is
  exact carried_of_greatest greatest

theorem carried_of_newest {inputs : List SOCDInputs} {axes : List Axis}
    (carried : ∀ axis ∈ axes, Carried inputs axis) (moved : (newestAxis axes).value ≠ 0) :
    Carried inputs (newestAxis axes) := by
  unfold newestAxis at moved ⊢
  cases won : firstGreatest Axis.tick axes with
  | none =>
      rw [won] at moved
      exact absurd rfl moved
  | some axis => exact carried axis (List.mem_of_find?_eq_some won)

theorem socdReference_carried (type : SOCDType) (inputs : List SOCDInputs)
    (moved : (socdReference type inputs).value ≠ 0) :
    Carried inputs (socdReference type inputs) := by
  unfold socdReference at moved ⊢
  cases found : inputs.find? fun input => input.inputValue && input.overrides with
  | some first =>
      have pressed := List.find?_some found
      rw [Bool.and_eq_true] at pressed
      exact ⟨first, List.mem_of_find?_eq_some found, pressed.1, rfl, rfl⟩
  | none =>
      rw [found] at moved
      have positive {tick : Nat} (p : greatestTick .positive inputs = some tick) :
          Carried inputs ⟨1, tick⟩ := carried_of_greatest p
      have negative {tick : Nat} (n : greatestTick .negative inputs = some tick) :
          Carried inputs ⟨-1, tick⟩ := carried_of_greatest n
      cases type with
      | neutral =>
          cases p : greatestTick .positive inputs <;> cases n : greatestTick .negative inputs <;>
            simp only [p, n, Option.isSome_none, Option.isSome_some, Bool.false_eq_true, if_true,
              if_false, Option.getD_none, Option.getD_some, Nat.max_zero, Nat.zero_max] at moved ⊢
          · exact absurd rfl moved
          · exact negative n
          · exact positive p
          · exact absurd rfl moved
      | positive =>
          cases p : greatestTick .positive inputs with
          | some tick => exact positive p
          | none =>
              cases n : greatestTick .negative inputs with
              | some tick => exact negative n
              | none =>
                  rw [p, n] at moved
                  exact absurd rfl moved
      | negative =>
          cases n : greatestTick .negative inputs with
          | some tick => exact negative n
          | none =>
              cases p : greatestTick .positive inputs with
              | some tick => exact positive p
              | none =>
                  rw [p, n] at moved
                  exact absurd rfl moved
      | last =>
          apply carried_of_newest ?_ moved
          intro axis member
          rw [List.mem_append, List.mem_append] at member
          rcases member with (is | is) | is
          · exact carried_of_axis is
          · exact carried_of_axis is
          · exact carried_of_axis is

theorem inputSocdParse_carried (type : SOCDType) (inputs : List SOCDInputs)
    (moved : (inputSocdParse type inputs).value ≠ 0) :
    Carried inputs (inputSocdParse type inputs) := by
  rw [inputSocdParse_eq] at moved ⊢
  exact socdReference_carried type inputs moved

/-- The loop computes the reference; without a pressed override only the pressed inputs matter,
and neither their order nor their number. -/
theorem inputSocdParse_meets (type : SOCDType) (inputs : List SOCDInputs) :
    inputSocdParse type inputs = socdReference type inputs ∧
      (Plain inputs → ∀ other, SamePressed inputs other →
        inputSocdParse type other = inputSocdParse type inputs) ∧
      ((inputSocdParse type inputs).value ≠ 0 →
        Carried inputs (inputSocdParse type inputs)) := by
  refine ⟨inputSocdParse_eq type inputs, ?_, inputSocdParse_carried type inputs⟩
  intro plain other same
  exact inputSocdParse_congr plain same type

/-- Left before right, the other way round with a released override in between. -/
theorem rearranged_last :
    inputSocdParse .last [⟨true, 7, .positive, false⟩, ⟨false, 9, .negative, true⟩,
        ⟨true, 5, .negative, false⟩, ⟨true, 7, .positive, false⟩] =
      inputSocdParse .last [⟨true, 5, .negative, false⟩, ⟨true, 7, .positive, false⟩] := by
  apply (inputSocdParse_meets .last
    [⟨true, 5, .negative, false⟩, ⟨true, 7, .positive, false⟩]).2.1
  · decide
  · intro input pressed
    simp only [List.mem_cons, List.not_mem_nil, or_false]
    constructor
    · rintro (is | is | is | is)
      · exact Or.inr is
      · rw [is] at pressed
        cases pressed
      · exact Or.inl is
      · exact Or.inr is
    · rintro (is | is)
      · exact Or.inr (Or.inr (Or.inl is))
      · exact Or.inl is

end PassingLink.Input
