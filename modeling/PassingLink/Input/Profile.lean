import PassingLink.Input.Debounce
import PassingLink.Input.Socd

/-! The pure part of `profile.cpp`: button mappings, the directions of each profile, the
menu gesture and the conversions to stick positions. -/
namespace PassingLink.Input

abbrev ButtonHistory := Gpio → Button

/-! ### Button mappings -/

/-- For every name the offset of the raw input that is read for it, or 0xff. -/
abbrev ButtonMapping := Gpio → UInt8

def baseMapping (b : Board) : ButtonMapping :=
  fun g => if b.available g then g.offset else 0xff

def defaultMapping (b : Board) : ButtonMapping :=
  fun g =>
    if b.microdash ∧ g = .buttonL3 then Gpio.buttonThumbLeft.offset
    else if b.microdash ∧ g = .buttonR3 then Gpio.buttonThumbRight.offset
    else baseMapping b g

def mapped (mapping : ButtonMapping) (raw : RawInputState) (g : Gpio) : Bool :=
  if mapping g = 0xff then false else getBit raw (mapping g)

theorem baseMapping_missing_iff (b : Board) (g : Gpio) :
    baseMapping b g = 0xff ↔ b.available g = false := by
  unfold baseMapping
  cases b.available g with
  | false => simp only [Bool.false_eq_true, if_false]
  | true => simp only [if_true, offset_available, Bool.true_eq_false]

theorem mapped_baseMapping (b : Board) (raw : RawInputState) (g : Gpio) :
    mapped (baseMapping b) raw g = (b.available g && raw g) := by
  unfold mapped baseMapping
  cases b.available g with
  | false => rfl
  | true => simp only [if_true, offset_available, if_false, getBit_offset, Bool.true_and]

/-! ### Directions -/

def socdInput (raw : RawInputState) (history : ButtonHistory) (g : Gpio)
    (buttonType : SOCDButtonType) (overrides : Bool) : SOCDInputs where
  inputValue := raw g
  inputTick := (history g).tick
  buttonType := buttonType
  overrides := overrides

def defaultSocdX (raw : RawInputState) (history : ButtonHistory) : List SOCDInputs :=
  [socdInput raw history .stickLeft .negative false,
    socdInput raw history .stickRight .positive false]

def defaultSocdY (b : Board) (raw : RawInputState) (history : ButtonHistory) :
    List SOCDInputs :=
  [socdInput raw history .stickUp .negative false,
    socdInput raw history .stickDown .positive false] ++
  if b.available .buttonW then [socdInput raw history .buttonW .negative false] else []

/-- The list followed by the two thumb buttons, as far as the board has them, which
override it with the given directions. -/
def withThumbs (b : Board) (raw : RawInputState) (history : ButtonHistory)
    (left right : SOCDButtonType) (inputs : List SOCDInputs) : List SOCDInputs :=
  inputs ++
  (if b.available .buttonThumbLeft then [socdInput raw history .buttonThumbLeft left true]
    else []) ++
  (if b.available .buttonThumbRight then [socdInput raw history .buttonThumbRight right true]
    else [])

structure Profile where
  buttonMapping : ButtonMapping
  socdX : RawInputState → ButtonHistory → List SOCDInputs
  socdY : RawInputState → ButtonHistory → List SOCDInputs

def defaultProfile (b : Board) : Profile where
  buttonMapping := defaultMapping b
  socdX := defaultSocdX
  socdY := defaultSocdY b

def dashblockProfile (b : Board) : Profile where
  buttonMapping := baseMapping b
  socdX := fun raw history =>
    withThumbs b raw history .negative .positive (defaultSocdX raw history)
  socdY := fun raw history =>
    withThumbs b raw history .neutral .neutral (defaultSocdY b raw history)

def tigerkneeProfile (b : Board) : Profile where
  buttonMapping := baseMapping b
  socdX := fun raw history =>
    withThumbs b raw history .negative .positive (defaultSocdX raw history)
  socdY := fun raw history =>
    withThumbs b raw history .negative .negative (defaultSocdY b raw history)

def profiles (b : Board) : List Profile :=
  if b.display then [defaultProfile b, dashblockProfile b, tigerkneeProfile b]
  else [defaultProfile b]

/-- `active_profile`, whose index only ever comes from the list itself. -/
def activeProfile (b : Board) (activeProfileIdx : Nat) : Profile :=
  (profiles b).getD activeProfileIdx (defaultProfile b)

/-! ### The buffer of the directions -/

/-- The number of elements of `socd_buf`. -/
def socdBufSize (b : Board) : Nat := if b.display then 32 else 2

/-- A board on which no profile stores past the end of `socd_buf`. -/
def SocdFits (b : Board) : Prop := b.display = true ∨ b.available .buttonW = false

instance (b : Board) : Decidable (SocdFits b) := inferInstanceAs (Decidable (_ ∨ _))

/-- What a profile stores is inside `socd_buf`; nothing is defined past its end. -/
def Profile.Fits (profile : Profile) (b : Board) (raw : RawInputState) (history : ButtonHistory) :
    Prop :=
  (profile.socdX raw history).length ≤ socdBufSize b ∧
    (profile.socdY raw history).length ≤ socdBufSize b

section Buffer
variable (b : Board) (raw : RawInputState) (history : ButtonHistory)

theorem length_defaultSocdY :
    (defaultSocdY b raw history).length = if b.available .buttonW then 3 else 2 := by
  unfold defaultSocdY
  cases b.available .buttonW <;> rfl

theorem length_withThumbs (left right : SOCDButtonType) (inputs : List SOCDInputs) :
    (withThumbs b raw history left right inputs).length ≤ inputs.length + 2 := by
  have one (g : Gpio) (side : SOCDButtonType) :
      (if b.available g then [socdInput raw history g side true] else []).length ≤ 1 := by
    cases b.available g <;> simp
  have first := one .buttonThumbLeft left
  have second := one .buttonThumbRight right
  rw [withThumbs, List.length_append, List.length_append]
  omega

theorem profile_short (profile : Profile) (member : profile ∈ profiles b) :
    (profile.socdX raw history).length ≤ 4 ∧ (profile.socdY raw history).length ≤ 5 := by
  have x : (defaultSocdX raw history).length = 2 := rfl
  have y : (defaultSocdY b raw history).length ≤ 3 := by
    rw [length_defaultSocdY]
    split <;> decide
  have thumbsX := length_withThumbs b raw history .negative .positive (defaultSocdX raw history)
  have thumbsY (left right : SOCDButtonType) :=
    length_withThumbs b raw history left right (defaultSocdY b raw history)
  have default : ((defaultProfile b).socdX raw history).length ≤ 4 ∧
      ((defaultProfile b).socdY raw history).length ≤ 5 := by
    dsimp only [defaultProfile]
    omega
  unfold profiles at member
  split at member
  · simp only [List.mem_cons, List.not_mem_nil, or_false] at member
    rcases member with rfl | rfl | rfl
    · exact default
    · have neutral := thumbsY .neutral .neutral
      dsimp only [dashblockProfile]
      omega
    · have negative := thumbsY .negative .negative
      dsimp only [tigerkneeProfile]
      omega
  · rw [List.mem_singleton.mp member]
    exact default

theorem activeProfile_mem (activeProfileIdx : Nat) :
    activeProfile b activeProfileIdx ∈ profiles b := by
  unfold activeProfile
  rw [List.getD_eq_getElem?_getD]
  cases found : (profiles b)[activeProfileIdx]? with
  | none =>
      unfold profiles
      split <;> exact List.mem_cons_self
  | some profile => exact List.mem_of_getElem? found

/-- Without a display there are two elements, and `default_socd_y` stores a third one where the
board has a button W. -/
theorem activeProfile_fits_iff (activeProfileIdx : Nat) :
    (activeProfile b activeProfileIdx).Fits b raw history ↔ SocdFits b := by
  have member := activeProfile_mem b activeProfileIdx
  unfold Profile.Fits SocdFits socdBufSize
  cases display : b.display with
  | true =>
      have short := profile_short b raw history _ member
      refine iff_of_true ?_ (Or.inl rfl)
      rw [if_pos rfl]
      omega
  | false =>
      have only : activeProfile b activeProfileIdx = defaultProfile b := by
        rw [profiles, display, if_neg Bool.false_ne_true] at member
        exact List.mem_singleton.mp member
      have x : ((defaultProfile b).socdX raw history).length = 2 := rfl
      have y : ((defaultProfile b).socdY raw history).length = _ :=
        length_defaultSocdY b raw history
      rw [only, x, y, if_neg Bool.false_ne_true]
      cases b.available .buttonW <;> simp

end Buffer

theorem activeProfile_menu (b : Board) (activeProfileIdx : Nat) :
    (activeProfile b activeProfileIdx).buttonMapping .buttonMenu = baseMapping b .buttonMenu := by
  have default : (defaultProfile b).buttonMapping .buttonMenu = baseMapping b .buttonMenu := by
    simp only [defaultProfile, defaultMapping, reduceCtorEq, and_false, if_false]
  unfold activeProfile profiles
  split
  · rcases activeProfileIdx with _ | _ | _ | n
    · exact default
    · rfl
    · rfl
    · exact default
  · rcases activeProfileIdx with _ | n
    · exact default
    · exact default

def inputSocd (profile : Profile) (xType yType : SOCDType) (raw : RawInputState)
    (history : ButtonHistory) : StickOutput where
  x := inputSocdParse xType (profile.socdX raw history)
  y := inputSocdParse yType (profile.socdY raw history)

/-! ### The menu gesture -/

inductive MenuInput where
  | up
  | down
  | left
  | right
  deriving DecidableEq, Repr

inductive MenuCall where
  | openMenu
  | closeMenu
  | input (input : MenuInput)
  deriving DecidableEq, Repr

/-- The result of `input_profile_parse_menu`, its static variable afterwards and its
calls in order. -/
structure ParsedMenu where
  swallowed : Bool
  menuOpened : Bool
  calls : List MenuCall
  deriving DecidableEq, Repr

/-- The end of `input_profile_parse_menu`: a direction that was pressed in this very poll
navigates, and the poll's input is swallowed. -/
def navigate (stick : StickOutput) (currentTick : Nat) : List MenuCall :=
  if stick.x.value ≠ 0 ∧ stick.x.tick = currentTick then
    [.input (if stick.x.value = -1 then .left else .right)]
  else if stick.y.value ≠ 0 ∧ stick.y.tick = currentTick then
    [.input (if stick.y.value = -1 then .up else .down)]
  else []

def inputProfileParseMenu (b : Board) (lockTick : Option Nat) (menuOpened : Bool)
    (menuButton : Button) (stick : StickOutput) (currentTick : Nat) : ParsedMenu :=
  if menuButton.state = false then
    { swallowed := false
      menuOpened := false
      calls := if menuOpened then [.closeMenu] else [] }
  else
    match lockTick with
    | some lockTick =>
        if currentTick - menuButton.tick < kMsToTicksCeil64 b.ticksPerSec 2000 then
          { swallowed := false, menuOpened := menuOpened, calls := [] }
        else if lockTick < menuButton.tick ∧ menuOpened = false then
          { swallowed := true
            menuOpened := true
            calls := .openMenu :: navigate stick currentTick }
        else
          { swallowed := true, menuOpened := menuOpened, calls := navigate stick currentTick }
    | none =>
        { swallowed := true
          menuOpened := true
          calls := (if menuOpened then [] else [.openMenu]) ++ navigate stick currentTick }

section ParseMenu
variable {b : Board} {menuOpened : Bool} {menuButton : Button} {stick : StickOutput}
  {currentTick : Nat}

theorem parseMenu_released (released : menuButton.state = false) (lockTick : Option Nat) :
    inputProfileParseMenu b lockTick menuOpened menuButton stick currentTick =
      ⟨false, false, if menuOpened then [.closeMenu] else []⟩ := by
  simp only [inputProfileParseMenu, if_pos released]

theorem parseMenu_unlocked (pressed : menuButton.state = true) :
    inputProfileParseMenu b none menuOpened menuButton stick currentTick =
      ⟨true, true, (if menuOpened then [] else [.openMenu]) ++ navigate stick currentTick⟩ := by
  simp only [inputProfileParseMenu, pressed, Bool.true_eq_false, if_false]

theorem parseMenu_early (pressed : menuButton.state = true) (lockTick : Nat)
    (early : currentTick - menuButton.tick < kMsToTicksCeil64 b.ticksPerSec 2000) :
    inputProfileParseMenu b (some lockTick) menuOpened menuButton stick currentTick =
      ⟨false, menuOpened, []⟩ := by
  simp only [inputProfileParseMenu, pressed, Bool.true_eq_false, if_false, if_pos early]

theorem parseMenu_held (pressed : menuButton.state = true) (lockTick : Nat)
    (held : kMsToTicksCeil64 b.ticksPerSec 2000 ≤ currentTick - menuButton.tick) :
    inputProfileParseMenu b (some lockTick) menuOpened menuButton stick currentTick =
      if lockTick < menuButton.tick ∧ menuOpened = false then
        ⟨true, true, .openMenu :: navigate stick currentTick⟩
      else ⟨true, menuOpened, navigate stick currentTick⟩ := by
  simp only [inputProfileParseMenu, pressed, Bool.true_eq_false, if_false,
    if_neg (Nat.not_lt.mpr held)]

end ParseMenu

/-! ### Stick positions -/

def stickStateFromXY (horizontal vertical : Int) : StickState :=
  if vertical = -1 ∧ horizontal = 0 then .north
  else if vertical = -1 ∧ horizontal = 1 then .northEast
  else if vertical = 0 ∧ horizontal = 1 then .east
  else if vertical = 1 ∧ horizontal = 1 then .southEast
  else if vertical = 1 ∧ horizontal = 0 then .south
  else if vertical = 1 ∧ horizontal = -1 then .southWest
  else if vertical = 0 ∧ horizontal = -1 then .west
  else if vertical = -1 ∧ horizontal = -1 then .northWest
  else .neutral

def stickScale (sign : Int) : UInt8 :=
  if sign < 0 then 0x00 else if sign = 0 then 0x80 else 0xff

end PassingLink.Input
