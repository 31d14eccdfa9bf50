import PassingLink.Input.Gesture
import PassingLink.Input.SocdReference
import PassingLink.Input.Uninitialised

/-! What holding inputs means to the console, and how long the debouncer keeps them back. -/
namespace PassingLink.Input
open Lib Display

/-! ### The sides of an axis -/

/-- What is left of opposing sides, whenever they were pressed. -/
def opposed (type : SOCDType) (negative positive : Bool) : Int :=
  match type with
  | .negative => if negative then -1 else if positive then 1 else 0
  | .positive => if positive then 1 else if negative then -1 else 0
  | .neutral | .last => (if positive then 1 else 0) - (if negative then 1 else 0)

/-- The times of the presses count only between opposing sides under the policy `last`. -/
def Timeless (type : SOCDType) (negative positive : Bool) : Prop :=
  type = .last → ¬ (negative = true ∧ positive = true)

def anyPressed (side : SOCDButtonType) (inputs : List SOCDInputs) : Bool :=
  inputs.any fun input => input.inputValue && input.buttonType = side

section Axes
variable {inputs : List SOCDInputs} {type : SOCDType}

theorem isSome_greatestTick (side : SOCDButtonType) (inputs : List SOCDInputs) :
    (greatestTick side inputs).isSome = anyPressed side inputs := by
  have shape : greatestTick side inputs = none ↔ anyPressed side inputs = false := by
    rw [greatestTick, List.max?_eq_none_iff, pressedTicks, List.map_eq_nil_iff,
      List.filter_eq_nil_iff, anyPressed, List.any_eq_false]
  cases pressed : anyPressed side inputs with
  | false => rw [shape.mpr pressed, Option.isSome_none]
  | true =>
      rw [Option.isSome_iff_ne_none]
      intro centred
      rw [shape.mp centred] at pressed
      cases pressed

theorem socdResolve_value {newest : Newest} (sides : newest.neutral = none)
    (timeless : Timeless type newest.negative.isSome newest.positive.isSome) :
    (socdResolve type newest).value =
      opposed type newest.negative.isSome newest.positive.isSome := by
  obtain ⟨positive, neutral, negative⟩ := newest
  subst sides
  cases type with
  | neutral => rfl
  | negative => cases negative <;> cases positive <;> rfl
  | positive => cases negative <;> cases positive <;> rfl
  | last =>
      cases negative with
      | none => cases positive <;> rfl
      | some tick =>
          cases positive with
          | none => rfl
          | some tick' => exact absurd ⟨rfl, rfl⟩ (timeless rfl)

theorem inputSocdParse_sides (plain : Plain inputs) (sides : anyPressed .neutral inputs = false)
    (timeless : Timeless type (anyPressed .negative inputs) (anyPressed .positive inputs)) :
    (inputSocdParse type inputs).value =
      opposed type (anyPressed .negative inputs) (anyPressed .positive inputs) := by
  have free : greatestTick .neutral inputs = none := by
    rw [← Option.isNone_iff_eq_none, ← Option.not_isSome, isSome_greatestTick, sides,
      Bool.not_false]
  rw [← isSome_greatestTick, ← isSome_greatestTick] at timeless ⊢
  rw [inputSocdParse_plain plain]
  exact socdResolve_value free timeless

end Axes

/-! ### What is held -/

/-- The board has the input, and it is held. -/
def Board.holds (b : Board) (held : RawInputState) (g : Gpio) : Bool := b.available g && held g

/-- The profiles that make directions of the thumb buttons. -/
def Device.thumbs (b : Board) (d : Device) : Bool :=
  b.display && (d.activeProfileIdx = 1 || d.activeProfileIdx = 2)

def Device.heldX (b : Board) (d : Device) (held : RawInputState) : Int :=
  if d.thumbs b ∧ b.holds held .buttonThumbLeft then -1
  else if d.thumbs b ∧ b.holds held .buttonThumbRight then 1
  else opposed d.socdTypeX (held .stickLeft) (held .stickRight)

def Device.heldY (b : Board) (d : Device) (held : RawInputState) : Int :=
  if d.thumbs b ∧ (b.holds held .buttonThumbLeft ∨ b.holds held .buttonThumbRight) then
    if d.activeProfileIdx = 1 then 0 else -1
  else opposed d.socdTypeY (held .stickUp || b.holds held .buttonW) (held .stickDown)

/-- The input that is read for a button. -/
def Device.source (b : Board) (d : Device) (btn : OutputButton) : Gpio :=
  if b.microdash ∧ d.thumbs b = false ∧ btn = .l3 then .buttonThumbLeft
  else if b.microdash ∧ d.thumbs b = false ∧ btn = .r3 then .buttonThumbRight
  else btn.gpio

/-- The state of the console that holding the inputs stands for. -/
def Device.meant (b : Board) (d : Device) (held : RawInputState) : InputState :=
  placeStick (inputParseMode b held d.outputMode) ⟨⟨d.heldX b held, 0⟩, ⟨d.heldY b held, 0⟩⟩
    { InputState.neutral d.touchpadData with
      button := fun btn =>
        if d.inputLocked ∧ btn.isLockable then false else b.holds held (d.source b btn) }

section Meant
variable {b : Board} {d : Device} {raw held : RawInputState} {history : ButtonHistory}

theorem profile_cases (b : Board) (d : Device) :
    (d.thumbs b = false ∧ d.profile b = defaultProfile b) ∨
      (d.thumbs b = true ∧ d.activeProfileIdx = 1 ∧ d.profile b = dashblockProfile b) ∨
      (d.thumbs b = true ∧ d.activeProfileIdx = 2 ∧ d.profile b = tigerkneeProfile b) := by
  unfold Device.thumbs Device.profile activeProfile profiles
  cases b.display with
  | false =>
      refine .inl ⟨rfl, ?_⟩
      rcases d.activeProfileIdx with _ | idx <;> rfl
  | true =>
      rcases d.activeProfileIdx with _ | _ | _ | idx
      · exact .inl ⟨rfl, rfl⟩
      · exact .inr (.inl ⟨rfl, rfl, rfl⟩)
      · exact .inr (.inr ⟨rfl, rfl, rfl⟩)
      · exact .inl ⟨rfl, rfl⟩

theorem mapped_offset {mapping : ButtonMapping} {g g' : Gpio} (target : mapping g = g'.offset) :
    mapped mapping raw g = raw g' := by
  rw [mapped, target, if_neg (offset_available g'), getBit_offset]

theorem mapped_default (remapped : Remapped b) (plain : d.thumbs b = false) (btn : OutputButton) :
    mapped (defaultMapping b) raw btn.gpio = b.holds raw (d.source b btn) := by
  unfold Device.source
  by_cases left : b.microdash = true ∧ btn = .l3
  · obtain ⟨microdash, rfl⟩ := left
    have target : defaultMapping b OutputButton.l3.gpio = Gpio.buttonThumbLeft.offset :=
      if_pos ⟨microdash, rfl⟩
    rw [mapped_offset target, if_pos ⟨microdash, plain, rfl⟩, Board.holds, (remapped microdash).1,
      Bool.true_and]
  · by_cases right : b.microdash = true ∧ btn = .r3
    · obtain ⟨microdash, rfl⟩ := right
      have target : defaultMapping b OutputButton.r3.gpio = Gpio.buttonThumbRight.offset := by
        unfold defaultMapping
        rw [if_neg fun both => absurd both.2 (by decide), if_pos ⟨microdash, rfl⟩]
      rw [mapped_offset target, if_neg fun all => absurd all.2.2 (by decide),
        if_pos ⟨microdash, plain, rfl⟩, Board.holds, (remapped microdash).2, Bool.true_and]
    · have target : defaultMapping b btn.gpio = baseMapping b btn.gpio := by
        unfold defaultMapping
        rw [if_neg fun both => left ⟨both.1, by cases btn <;> cases both.2; rfl⟩,
          if_neg fun both => right ⟨both.1, by cases btn <;> cases both.2; rfl⟩]
      rw [if_neg fun all => left ⟨all.1, all.2.2⟩, if_neg fun all => right ⟨all.1, all.2.2⟩, mapped,
        target]
      exact mapped_baseMapping b raw btn.gpio

theorem mapped_meant (remapped : Remapped b) (btn : OutputButton) :
    mapped (d.profile b).buttonMapping raw btn.gpio = b.holds raw (d.source b btn) := by
  have base (thumbs : d.thumbs b = true) :
      mapped (baseMapping b) raw btn.gpio = b.holds raw (d.source b btn) := by
    have direct : d.source b btn = btn.gpio := by
      unfold Device.source
      rw [thumbs, if_neg fun all => Bool.true_eq_false.mp all.2.1,
        if_neg fun all => Bool.true_eq_false.mp all.2.1]
    rw [direct]
    exact mapped_baseMapping b raw btn.gpio
  rcases profile_cases b d with ⟨plain, profile⟩ | ⟨thumbs, -, profile⟩ | ⟨thumbs, -, profile⟩
  · rw [profile]
    exact mapped_default remapped plain btn
  · rw [profile]
    exact base thumbs
  · rw [profile]
    exact base thumbs

/-! ### The axes of a profile -/

theorem defaultSocdX_value {type : SOCDType}
    (timeless : Timeless type (raw .stickLeft) (raw .stickRight)) :
    (inputSocdParse type (defaultSocdX raw history)).value =
      opposed type (raw .stickLeft) (raw .stickRight) := by
  have negative : anyPressed .negative (defaultSocdX raw history) = raw .stickLeft := by
    simp [anyPressed, defaultSocdX, socdInput]
  have positive : anyPressed .positive (defaultSocdX raw history) = raw .stickRight := by
    simp [anyPressed, defaultSocdX, socdInput]
  have neutral : anyPressed .neutral (defaultSocdX raw history) = false := by
    simp [anyPressed, defaultSocdX, socdInput]
  have plain : Plain (defaultSocdX raw history) := by
    simp [Plain, defaultSocdX, socdInput]
  rw [← negative, ← positive] at timeless ⊢
  exact inputSocdParse_sides plain neutral timeless

theorem defaultSocdY_value {type : SOCDType}
    (timeless : Timeless type (raw .stickUp || b.holds raw .buttonW) (raw .stickDown)) :
    (inputSocdParse type (defaultSocdY b raw history)).value =
      opposed type (raw .stickUp || b.holds raw .buttonW) (raw .stickDown) := by
  have negative : anyPressed .negative (defaultSocdY b raw history) =
      (raw .stickUp || b.holds raw .buttonW) := by
    cases w : b.available .buttonW <;>
      simp [anyPressed, defaultSocdY, socdInput, Board.holds, w]
  have positive : anyPressed .positive (defaultSocdY b raw history) = raw .stickDown := by
    cases w : b.available .buttonW <;> simp [anyPressed, defaultSocdY, socdInput, w]
  have neutral : anyPressed .neutral (defaultSocdY b raw history) = false := by
    cases w : b.available .buttonW <;> simp [anyPressed, defaultSocdY, socdInput, w]
  have plain : Plain (defaultSocdY b raw history) := by
    cases w : b.available .buttonW <;> simp [Plain, defaultSocdY, socdInput, w]
  rw [← negative, ← positive] at timeless ⊢
  exact inputSocdParse_sides plain neutral timeless

theorem inputSocdParse_idle {inputs idle : List SOCDInputs} {type : SOCDType}
    (plain : Plain inputs) (released : ∀ input ∈ idle, input.inputValue = false) :
    inputSocdParse type (inputs ++ idle) = inputSocdParse type inputs := by
  have ticks (side : SOCDButtonType) :
      pressedTicks side (inputs ++ idle) = pressedTicks side inputs := by
    have unpressed : pressedTicks side idle = [] := by
      rw [pressedTicks, List.map_eq_nil_iff, List.filter_eq_nil_iff]
      intro input member
      rw [released input member, Bool.false_and]
      exact Bool.false_ne_true
    rw [pressedTicks, List.filter_append, List.map_append]
    exact (congrArg _ unpressed).trans (List.append_nil _)
  have still : Plain (inputs ++ idle) := by
    intro input member pressed
    rcases List.mem_append.mp member with before | after
    · exact plain input before pressed
    · rw [released input after] at pressed
      cases pressed
  rw [inputSocdParse_plain still, inputSocdParse_plain plain, ticks, ticks, ticks]

def thumb (b : Board) (raw : RawInputState) (history : ButtonHistory) (g : Gpio)
    (side : SOCDButtonType) : List SOCDInputs :=
  if b.available g then [socdInput raw history g side true] else []

theorem thumb_found (g : Gpio) (side : SOCDButtonType) :
    ((thumb b raw history g side).find? fun input => input.inputValue && input.overrides) =
      if b.holds raw g then some (socdInput raw history g side true) else none := by
  unfold thumb Board.holds
  cases b.available g with
  | false => rfl
  | true => cases pressed : raw g <;> simp [socdInput, pressed]

theorem thumb_released {g : Gpio} (released : ¬ b.holds raw g = true) (side : SOCDButtonType) :
    ∀ input ∈ thumb b raw history g side, input.inputValue = false := by
  intro input member
  unfold thumb at member
  split at member
  · rename_i there
    rw [Board.holds, there, Bool.true_and, Bool.not_eq_true] at released
    rw [List.mem_singleton.mp member]
    exact released
  · cases member

/-- A thumb button that is held decides, the left one before the right one. -/
theorem withThumbs_value {type : SOCDType} {left right : SOCDButtonType} {inputs : List SOCDInputs}
    (plain : ∀ input ∈ inputs, input.overrides = false) :
    (inputSocdParse type (withThumbs b raw history left right inputs)).value =
      if b.holds raw .buttonThumbLeft then left.toInt
      else if b.holds raw .buttonThumbRight then right.toInt
      else (inputSocdParse type inputs).value := by
  have unfound : (inputs.find? fun input => input.inputValue && input.overrides) = none := by
    rw [List.find?_eq_none]
    intro input member
    rw [plain input member, Bool.and_false]
    exact Bool.false_ne_true
  have shape : withThumbs b raw history left right inputs =
      inputs ++ (thumb b raw history .buttonThumbLeft left ++
        thumb b raw history .buttonThumbRight right) := List.append_assoc ..
  have found : ((withThumbs b raw history left right inputs).find?
      fun input => input.inputValue && input.overrides) =
        (if b.holds raw .buttonThumbLeft then
          some (socdInput raw history .buttonThumbLeft left true) else none).or
        (if b.holds raw .buttonThumbRight then
          some (socdInput raw history .buttonThumbRight right true) else none) := by
    rw [shape, List.find?_append, unfound, Option.none_or, List.find?_append, thumb_found,
      thumb_found]
  by_cases leftHeld : b.holds raw .buttonThumbLeft = true
  · rw [if_pos leftHeld, Option.some_or] at found
    rw [if_pos leftHeld, inputSocdParse_override found]
    rfl
  · rw [if_neg leftHeld, Option.none_or] at found
    rw [if_neg leftHeld]
    by_cases rightHeld : b.holds raw .buttonThumbRight = true
    · rw [if_pos rightHeld] at found
      rw [if_pos rightHeld, inputSocdParse_override found]
      rfl
    · have released : ∀ input ∈ thumb b raw history .buttonThumbLeft left ++
          thumb b raw history .buttonThumbRight right, input.inputValue = false := by
        intro input member
        rcases List.mem_append.mp member with atLeft | atRight
        · exact thumb_released leftHeld left input atLeft
        · exact thumb_released rightHeld right input atRight
      rw [if_neg rightHeld, shape, inputSocdParse_idle (fun input member _ => plain input member)
        released]

theorem defaultSocdX_plain : ∀ input ∈ defaultSocdX raw history, input.overrides = false := by
  simp [defaultSocdX, socdInput]

theorem defaultSocdY_plain : ∀ input ∈ defaultSocdY b raw history, input.overrides = false := by
  cases w : b.available .buttonW <;> simp [defaultSocdY, socdInput, w]

def Device.Timeless (d : Device) (b : Board) (raw : RawInputState) : Prop :=
  Input.Timeless d.socdTypeX (raw .stickLeft) (raw .stickRight) ∧
    Input.Timeless d.socdTypeY (raw .stickUp || b.holds raw .buttonW) (raw .stickDown)

theorem heldX_thumbs (thumbs : d.thumbs b = true) : d.heldX b raw =
    if b.holds raw .buttonThumbLeft then -1
    else if b.holds raw .buttonThumbRight then 1
    else opposed d.socdTypeX (raw .stickLeft) (raw .stickRight) := by
  simp only [Device.heldX, thumbs, true_and]

theorem heldY_thumbs (thumbs : d.thumbs b = true) (side : Int)
    (is : (if d.activeProfileIdx = 1 then (0 : Int) else -1) = side) : d.heldY b raw =
    if b.holds raw .buttonThumbLeft then side
    else if b.holds raw .buttonThumbRight then side
    else opposed d.socdTypeY (raw .stickUp || b.holds raw .buttonW) (raw .stickDown) := by
  simp only [Device.heldY, thumbs, true_and, is]
  cases b.holds raw .buttonThumbLeft <;> cases b.holds raw .buttonThumbRight <;> rfl

theorem socd_meant (timeless : d.Timeless b raw) :
    let stick := inputSocd (d.profile b) d.socdTypeX d.socdTypeY raw history
    stick.x.value = d.heldX b raw ∧ stick.y.value = d.heldY b raw := by
  have x : (inputSocdParse d.socdTypeX (defaultSocdX raw history)).value = _ :=
    defaultSocdX_value timeless.1
  have y : (inputSocdParse d.socdTypeY (defaultSocdY b raw history)).value = _ :=
    defaultSocdY_value timeless.2
  rcases profile_cases b d with
    ⟨plain, profile⟩ | ⟨thumbs, first, profile⟩ | ⟨thumbs, second, profile⟩
  · rw [profile]
    refine ⟨x.trans ?_, y.trans ?_⟩
    · simp only [Device.heldX, plain, Bool.false_eq_true, false_and, if_false]
    · simp only [Device.heldY, plain, Bool.false_eq_true, false_and, if_false]
  · rw [profile, heldX_thumbs thumbs, heldY_thumbs thumbs 0 (if_pos first), ← x, ← y]
    exact ⟨withThumbs_value defaultSocdX_plain, withThumbs_value defaultSocdY_plain⟩
  · have other : ¬ d.activeProfileIdx = 1 := by
      rw [second]
      decide
    rw [profile, heldX_thumbs thumbs, heldY_thumbs thumbs (-1) (if_neg other), ← x, ← y]
    exact ⟨withThumbs_value defaultSocdX_plain, withThumbs_value defaultSocdY_plain⟩

end Meant

/-! ### The report -/

theorem placeStick_values {mode : OutputMode} {stick stick' : StickOutput} (out : InputState)
    (x : stick.x.value = stick'.x.value) (y : stick.y.value = stick'.y.value) :
    placeStick mode stick out = placeStick mode stick' out := by
  cases mode <;> simp only [placeStick, x, y]

theorem reportInputs_eq (d : Device) (mapping : ButtonMapping) (raw : RawInputState)
    (stick : StickOutput) (out : InputState) :
    reportInputs d mapping raw stick out =
      placeStick d.outputMode stick
        { out with
          button := fun btn =>
            if d.inputLocked ∧ btn.isLockable then false else mapped mapping raw btn.gpio } := by
  cases locked : d.inputLocked with
  | true =>
      rw [reportInputs_locked locked]
      simp only [true_and]
  | false =>
      simp only [reportInputs, inputGetLockTick_eq, locked, Bool.false_eq_true, if_false, false_and,
        Option.isSome_none]

theorem reportInputs_meant {b : Board} {d : Device} {held : RawInputState} (remapped : Remapped b)
    (timeless : d.Timeless b held) (history : ButtonHistory) :
    reportInputs { d with outputMode := inputParseMode b held d.outputMode }
      (d.profile b).buttonMapping held
      (inputSocd (d.profile b) d.socdTypeX d.socdTypeY held history)
      (InputState.neutral d.touchpadData) = d.meant b held := by
  obtain ⟨x, y⟩ := @socd_meant b d held history timeless
  rw [reportInputs_eq, Device.meant]
  simp only [mapped_meant remapped]
  exact placeStick_values _ x y

/-! ### Until the debouncer has let the held inputs through -/

/-- From the tick `since` on the inputs have been held. -/
def Holding (b : Board) (held : RawInputState) (since : Nat) (d : Device) : Prop :=
  ∀ g, b.available g = true →
    (d.buttonHistory g).state = held g ∨ (d.buttonHistory g).tick ≤ since

section Holding
variable {b : Board} {d : Device} {p : Poll} {held : RawInputState} {since : Nat}

theorem holding_poll (holds : Holding b held since d)
    (reads : Agree b (inputGetRawState b d p) held) :
    Holding b held since (inputGetState b d p).device := by
  intro g available
  rw [poll_buttonHistory, history_available available, reads g available]
  rcases inputDebounce_cases (kMsToCycCeil64 b.cyclesPerSec 5) (held g) (d.buttonHistory g)
    (d.tick p) with ⟨same, -⟩ | ⟨accepted, -⟩
  · rw [same]
    exact holds g available
  · rw [accepted]
    exact .inl rfl

/-- Nothing that was accepted before the inputs were held can keep them back any longer. -/
theorem held_agree (holds : Holding b held since d)
    (reads : Agree b (inputGetRawState b d p) held)
    (late : since + kMsToCycCeil64 b.cyclesPerSec 5 ≤ d.tick p) :
    Agree b (d.debounced b p) held := by
  intro g available
  rw [← history_state available, history_available available, reads g available]
  rcases inputDebounce_cases (kMsToCycCeil64 b.cyclesPerSec 5) (held g) (d.buttonHistory g)
    (d.tick p) with ⟨same, equal | early⟩ | ⟨accepted, -⟩
  · rw [same]
    exact equal.symm
  · rw [same]
    rcases holds g available with settled | before
    · exact settled
    · omega
  · rw [accepted]

/-- The menu button is held, for long enough if the inputs are locked. -/
def MenuMeant (b : Board) (d : Device) (p : Poll) (held : RawInputState) : Prop :=
  b.display = true ∧ b.holds held .buttonMenu = true ∧ (d.inputLocked = true → HeldLong b d p)

theorem menuTakes_iff (agree : Agree b (d.debounced b p) held) :
    MenuTakes b d p ↔ MenuMeant b d p held := by
  unfold MenuTakes MenuHeld HasMenu MenuMeant Board.holds
  rw [Bool.and_eq_true]
  constructor
  · rintro ⟨⟨⟨display, available⟩, pressed⟩, long⟩
    rw [history_state available, agree _ available] at pressed
    exact ⟨display, ⟨available, pressed⟩, long⟩
  · rintro ⟨display, ⟨available, pressed⟩, long⟩
    refine ⟨⟨⟨display, available⟩, ?_⟩, long⟩
    rw [history_state available, agree _ available]
    exact pressed

/-- Once the inputs have been held for the time of a transition, a poll makes of them what they
mean, whatever the history. -/
theorem poll_meant (stick : StickAvailable b) (remapped : Remapped b)
    (holds : Holding b held since d) (reads : Agree b (inputGetRawState b d p) held)
    (late : since + kMsToCycCeil64 b.cyclesPerSec 5 ≤ d.tick p) :
    (MenuMeant b d p held → (inputGetState b d p).out = InputState.neutral d.touchpadData) ∧
      (¬ MenuMeant b d p held → d.Timeless b held →
        (inputGetState b d p).out = d.meant b held) := by
  have agree := held_agree holds reads late
  have blind := activeProfile_blind stick remapped d.activeProfileIdx
  rw [← menuTakes_iff agree, ← swallowed_iff, poll_eq]
  dsimp only
  refine ⟨fun swallowed => if_pos swallowed, ?_⟩
  intro passed timeless
  have mode : (d.polled b p).outputMode =
      ({ d with outputMode := inputParseMode b held d.outputMode } : Device).outputMode :=
    inputParseMode_agree agree d.outputMode
  have axes : d.stick b p =
      inputSocd (d.profile b) d.socdTypeX d.socdTypeY held (d.history b p) := by
    have x := blind.socdX agree (d.history b p)
    have y := blind.socdY agree (d.history b p)
    exact congrArg₂ StickOutput.mk (congrArg (inputSocdParse d.socdTypeX) x)
      (congrArg (inputSocdParse d.socdTypeY) y)
  have read : reportInputs (d.polled b p) (d.profile b).buttonMapping (d.debounced b p)
      (d.stick b p) (InputState.neutral d.touchpadData) =
        reportInputs (d.polled b p) (d.profile b).buttonMapping held (d.stick b p)
          (InputState.neutral d.touchpadData) := reportInputs_agree _ blind agree _ _
  rw [if_neg passed, read, axes, ← reportInputs_meant remapped timeless (d.history b p)]
  exact reportInputs_congr mode rfl _ _ _ _

end Holding

end PassingLink.Input
