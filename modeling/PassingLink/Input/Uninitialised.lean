import PassingLink.Input.Machine

/-! Which boards ever look at the bits of the local raw state that no pin writes: two runs that
differ only in these bits. -/
namespace PassingLink.Input
open Lib Display

/-- The two raw states have the same available inputs. -/
def Agree (b : Board) (raw raw' : RawInputState) : Prop :=
  ∀ g, b.available g = true → raw g = raw' g

inductive SameEvent : Event → Event → Prop where
  | poll (p : Poll) (uninitialised : RawInputState) :
      SameEvent (.poll p) (.poll { p with uninitialised })
  | same (e : Event) : SameEvent e e

/-- No run, and no poll after it, depends on the bits. -/
def Oblivious (b : Board) : Prop :=
  ∀ (d : Device) (es es' : List Event), List.Forall₂ SameEvent es es' →
    run (Device.step b) d es = run (Device.step b) d es' ∧
      ∀ (p : Poll) (uninitialised : RawInputState),
        inputGetState b (run (Device.step b) d es) p =
          inputGetState b (run (Device.step b) d es') { p with uninitialised }

/-! ### The profiles read available inputs -/

/-- The targets of the remapping of the microdash exist. -/
def Remapped (b : Board) : Prop :=
  b.microdash = true → b.available .buttonThumbLeft = true ∧ b.available .buttonThumbRight = true

structure Blind (b : Board) (profile : Profile) : Prop where
  socdX : ∀ {raw raw' : RawInputState}, Agree b raw raw' → ∀ history,
    profile.socdX raw history = profile.socdX raw' history
  socdY : ∀ {raw raw' : RawInputState}, Agree b raw raw' → ∀ history,
    profile.socdY raw history = profile.socdY raw' history
  mapped : ∀ {raw raw' : RawInputState}, Agree b raw raw' → ∀ g,
    mapped profile.buttonMapping raw g = mapped profile.buttonMapping raw' g

section Blind
variable {b : Board} {raw raw' : RawInputState}

theorem socdInput_agree (agree : Agree b raw raw') {g : Gpio} (available : b.available g = true)
    (history : ButtonHistory) (buttonType : SOCDButtonType) (overrides : Bool) :
    socdInput raw history g buttonType overrides = socdInput raw' history g buttonType overrides := by
  rw [socdInput, socdInput, agree g available]

/-- The four directions of the stick. -/
def StickAvailable (b : Board) : Prop :=
  ∀ g ∈ [Gpio.stickUp, .stickDown, .stickRight, .stickLeft], b.available g = true

theorem defaultSocdX_agree (stick : StickAvailable b) (agree : Agree b raw raw')
    (history : ButtonHistory) : defaultSocdX raw history = defaultSocdX raw' history := by
  have left := stick .stickLeft (by decide)
  have right := stick .stickRight (by decide)
  rw [defaultSocdX, defaultSocdX, socdInput_agree agree left, socdInput_agree agree right]

theorem defaultSocdY_agree (stick : StickAvailable b) (agree : Agree b raw raw')
    (history : ButtonHistory) : defaultSocdY b raw history = defaultSocdY b raw' history := by
  have up := stick .stickUp (by decide)
  have down := stick .stickDown (by decide)
  rw [defaultSocdY, defaultSocdY, socdInput_agree agree up, socdInput_agree agree down]
  cases w : b.available .buttonW with
  | false => rfl
  | true => rw [socdInput_agree agree w]

theorem withThumbs_agree (agree : Agree b raw raw') (history : ButtonHistory)
    (left right : SOCDButtonType) (inputs : List SOCDInputs) :
    withThumbs b raw history left right inputs = withThumbs b raw' history left right inputs := by
  have thumb (g : Gpio) (side : SOCDButtonType) :
      (if b.available g then [socdInput raw history g side true] else []) =
        if b.available g then [socdInput raw' history g side true] else [] := by
    cases there : b.available g with
    | false => rfl
    | true => rw [socdInput_agree agree there]
  rw [withThumbs, withThumbs, thumb, thumb]

theorem mapped_agree {mapping : ButtonMapping} (agree : Agree b raw raw') {g : Gpio}
    (guarded : mapping g = 0xff ∨ ∃ g', mapping g = g'.offset ∧ b.available g' = true) :
    mapped mapping raw g = mapped mapping raw' g := by
  unfold mapped
  rcases guarded with missing | ⟨g', there, available⟩
  · rw [if_pos missing, if_pos missing]
  · rw [there, getBit_offset, getBit_offset, agree g' available]

theorem baseMapping_guarded (b : Board) (g : Gpio) :
    baseMapping b g = 0xff ∨ ∃ g', baseMapping b g = g'.offset ∧ b.available g' = true := by
  unfold baseMapping
  cases available : b.available g with
  | false => exact Or.inl rfl
  | true => exact Or.inr ⟨g, rfl, available⟩

theorem defaultMapping_guarded (remapped : Remapped b) (g : Gpio) :
    defaultMapping b g = 0xff ∨ ∃ g', defaultMapping b g = g'.offset ∧ b.available g' = true := by
  unfold defaultMapping
  split
  · rename_i left
    exact Or.inr ⟨.buttonThumbLeft, rfl, (remapped left.1).1⟩
  · split
    · rename_i right
      exact Or.inr ⟨.buttonThumbRight, rfl, (remapped right.1).2⟩
    · exact baseMapping_guarded b g

theorem defaultProfile_blind (stick : StickAvailable b) (remapped : Remapped b) :
    Blind b (defaultProfile b) where
  socdX := fun agree history => defaultSocdX_agree stick agree history
  socdY := fun agree history => defaultSocdY_agree stick agree history
  mapped := fun agree g => mapped_agree agree (defaultMapping_guarded remapped g)

theorem dashblockProfile_blind (stick : StickAvailable b) : Blind b (dashblockProfile b) where
  socdX := fun agree history => by
    simp only [dashblockProfile]
    rw [defaultSocdX_agree stick agree, withThumbs_agree agree]
  socdY := fun agree history => by
    simp only [dashblockProfile]
    rw [defaultSocdY_agree stick agree, withThumbs_agree agree]
  mapped := fun agree g => mapped_agree agree (baseMapping_guarded b g)

theorem tigerkneeProfile_blind (stick : StickAvailable b) : Blind b (tigerkneeProfile b) where
  socdX := fun agree history => by
    simp only [tigerkneeProfile]
    rw [defaultSocdX_agree stick agree, withThumbs_agree agree]
  socdY := fun agree history => by
    simp only [tigerkneeProfile]
    rw [defaultSocdY_agree stick agree, withThumbs_agree agree]
  mapped := fun agree g => mapped_agree agree (baseMapping_guarded b g)

theorem profiles_blind (stick : StickAvailable b) (remapped : Remapped b) :
    ∀ profile ∈ profiles b, Blind b profile := by
  intro profile member
  unfold profiles at member
  split at member
  · simp only [List.mem_cons, List.not_mem_nil, or_false] at member
    rcases member with rfl | rfl | rfl
    · exact defaultProfile_blind stick remapped
    · exact dashblockProfile_blind stick
    · exact tigerkneeProfile_blind stick
  · rw [List.mem_singleton.mp member]
    exact defaultProfile_blind stick remapped

theorem activeProfile_blind (stick : StickAvailable b) (remapped : Remapped b)
    (activeProfileIdx : Nat) : Blind b (activeProfile b activeProfileIdx) := by
  unfold activeProfile
  rw [List.getD_eq_getElem?_getD]
  cases found : (profiles b)[activeProfileIdx]? with
  | none => exact defaultProfile_blind stick remapped
  | some profile => exact profiles_blind stick remapped profile (List.mem_of_getElem? found)

end Blind

/-! ### One poll -/

section Poll
variable {b : Board} (d : Device) (p : Poll) (uninitialised : RawInputState)

theorem rawState_agree (gpio : b.inputMethod = .gpio) (unqueued : b.inputQueue = false) :
    Agree b (inputGetRawState b d p) (inputGetRawState b d { p with uninitialised }) := by
  intro g available
  simp only [inputGetRawState, gpio, unqueued, Bool.false_eq_true, if_false, available, if_true]

theorem debounce_agree {raw raw' : RawInputState} (agree : Agree b raw raw')
    (history : ButtonHistory) (currentTick : Nat) :
    Agree b (debounceInputs b raw history currentTick).1
        (debounceInputs b raw' history currentTick).1 ∧
      (debounceInputs b raw history currentTick).2 =
        (debounceInputs b raw' history currentTick).2 := by
  constructor
  · intro g available
    simp only [debounceInputs, available, if_true, agree g available]
  · funext g
    cases available : b.available g with
    | true => simp only [debounceInputs, available, if_true, agree g available]
    | false => simp only [debounceInputs, available, Bool.false_eq_true, if_false]

theorem inputParseMode_agree {raw raw' : RawInputState} (agree : Agree b raw raw')
    (mode : OutputMode) : inputParseMode b raw mode = inputParseMode b raw' mode := by
  have read (g : Gpio) : (b.available g = true ∧ raw g = true) ↔
      (b.available g = true ∧ raw' g = true) := by
    apply and_congr_right
    intro available
    rw [agree g available]
  simp only [inputParseMode, read]

theorem reportInputs_agree {profile : Profile} (blind : Blind b profile)
    {raw raw' : RawInputState} (agree : Agree b raw raw') (stick : StickOutput) (out : InputState) :
    reportInputs d profile.buttonMapping raw stick out =
      reportInputs d profile.buttonMapping raw' stick out := by
  have read (g : Gpio) : mapped profile.buttonMapping raw g = mapped profile.buttonMapping raw' g :=
    blind.mapped agree g
  simp only [reportInputs, read]

theorem poll_oblivious (gpio : b.inputMethod = .gpio) (unqueued : b.inputQueue = false)
    (stick : StickAvailable b) (remapped : Remapped b) :
    inputGetState b d p = inputGetState b d { p with uninitialised } := by
  have raw := rawState_agree d p uninitialised gpio unqueued
  obtain ⟨debounced, history⟩ := debounce_agree raw d.buttonHistory (d.tick p)
  have blind := activeProfile_blind stick remapped d.activeProfileIdx
  have sameHistory : d.history b p = d.history b { p with uninitialised } := history
  have sameStick : d.stick b p = d.stick b { p with uninitialised } := by
    unfold Device.stick inputSocd
    rw [← sameHistory]
    have x := blind.socdX debounced (d.history b p)
    have y := blind.socdY debounced (d.history b p)
    exact congrArg₂ StickOutput.mk (congrArg (inputSocdParse d.socdTypeX) x)
      (congrArg (inputSocdParse d.socdTypeY) y)
  have sameGesture : d.gesture b p = d.gesture b { p with uninitialised } := by
    unfold Device.gesture
    rw [← sameHistory, ← sameStick]
    rfl
  have samePolled : d.polled b p = d.polled b { p with uninitialised } := by
    have mode : d.mode b p = d.mode b { p with uninitialised } :=
      inputParseMode_agree debounced d.outputMode
    unfold Device.polled
    rw [← sameHistory, ← mode]
    rfl
  have sameReport : reportInputs (d.polled b p) (d.profile b).buttonMapping (d.debounced b p)
      (d.stick b p) (InputState.neutral d.touchpadData) =
        reportInputs (d.polled b p) (d.profile b).buttonMapping
          (d.debounced b { p with uninitialised }) (d.stick b p)
          (InputState.neutral d.touchpadData) :=
    reportInputs_agree _ blind debounced _ _
  rw [poll_eq, poll_eq, ← sameGesture, ← samePolled, ← sameStick, sameReport]

end Poll

/-! ### The microdash without its thumb buttons -/

/-- A poll with nothing pressed, after which the uninitialised bits are all `level`. -/
def Poll.idle (level : Bool) : Poll := ⟨none, fun _ => false, fun _ => level, 0, 0⟩

section Leak
variable {b : Board}

theorem boot_debounced (gpio : b.inputMethod = .gpio) (unqueued : b.inputQueue = false)
    (level : Bool) {g : Gpio} (missing : b.available g = false) :
    (Device.boot b).debounced b (Poll.idle level) g = level := by
  rw [(history_unavailable missing).2]
  simp only [inputGetRawState, gpio, unqueued, Bool.false_eq_true, if_false, missing, Poll.idle]

theorem boot_passes (gpio : b.inputMethod = .gpio) (unqueued : b.inputQueue = false)
    (level : Bool) : ((Device.boot b).gesture b (Poll.idle level)).swallowed = false := by
  unfold Device.gesture
  split
  · rename_i menu
    have released : ((Device.boot b).history b (Poll.idle level) .buttonMenu).state = false := by
      have raw : inputGetRawState b (Device.boot b) (Poll.idle level) .buttonMenu = false := by
        simp only [inputGetRawState, gpio, unqueued, Bool.false_eq_true, if_false, menu.2, if_true,
          Poll.idle]
      rw [history_available menu.2, raw]
      rfl
    rw [parseMenu_released released]
  · rfl

theorem boot_profile : (Device.boot b).profile b = defaultProfile b := by
  have first : (Device.boot b).profile b = activeProfile b 0 := rfl
  rw [first, activeProfile, profiles]
  split <;> rfl

theorem boot_button (gpio : b.inputMethod = .gpio) (unqueued : b.inputQueue = false)
    {btn : OutputButton} {g : Gpio} (target : defaultMapping b btn.gpio = g.offset)
    (missing : b.available g = false) (level : Bool) :
    (inputGetState b (Device.boot b) (Poll.idle level)).out.button btn = level := by
  have shown : mapped (defaultMapping b) ((Device.boot b).debounced b (Poll.idle level))
      btn.gpio = level := by
    rw [mapped, target, if_neg (offset_available g), getBit_offset,
      boot_debounced gpio unqueued level missing]
  have unlocked : ¬ (((Device.boot b).polled b (Poll.idle level)).inputLocked = true ∧
      btn.isLockable = true) := fun locked => Bool.false_ne_true locked.1
  rw [poll_eq]
  dsimp only
  rw [boot_passes gpio unqueued level, if_neg Bool.false_ne_true, reportInputs_button,
    if_neg unlocked, boot_profile]
  exact shown

/-- A button that the profile in use at boot maps to a missing input shows its bit. -/
theorem leaks (gpio : b.inputMethod = .gpio) (unqueued : b.inputQueue = false)
    {btn : OutputButton} {g : Gpio} (target : defaultMapping b btn.gpio = g.offset)
    (missing : b.available g = false) : ¬ Oblivious b := by
  intro oblivious
  have same : inputGetState b (Device.boot b) (Poll.idle false) =
      inputGetState b (Device.boot b) (Poll.idle true) :=
    (oblivious (Device.boot b) [] [] .nil).2 (Poll.idle false) (fun _ => true)
  have off := boot_button gpio unqueued target missing false
  have on := boot_button gpio unqueued target missing true
  rw [same, on] at off
  exact Bool.true_eq_false.mp off

end Leak

/-- On a board whose polls stay inside their buffers, the only inputs that are read without being
available are the two that the microdash maps its stick buttons to. -/
theorem oblivious_iff {b : Board} (gpio : b.inputMethod = .gpio) (unqueued : b.inputQueue = false)
    (stick : StickAvailable b) (fits : SocdFits b) :
    (∀ d p, StoresInside b d p) ∧ (Oblivious b ↔ Remapped b) := by
  refine ⟨fun d p => storesInside_iff.mpr fits, ?_⟩
  constructor
  · intro oblivious microdash
    by_contra absent
    rw [not_and_or, Bool.not_eq_true, Bool.not_eq_true] at absent
    rcases absent with left | right
    · have target : defaultMapping b OutputButton.l3.gpio = Gpio.buttonThumbLeft.offset :=
        if_pos ⟨microdash, rfl⟩
      exact leaks gpio unqueued target left oblivious
    · have target : defaultMapping b OutputButton.r3.gpio = Gpio.buttonThumbRight.offset := by
        have other : ¬ (b.microdash = true ∧ OutputButton.r3.gpio = .buttonL3) :=
          fun both => absurd both.2 (by decide)
        rw [defaultMapping, if_neg other, if_pos ⟨microdash, rfl⟩]
      exact leaks gpio unqueued target right oblivious
  · intro remapped d es es' same
    have blind (d : Device) (e e' : Event) (same : SameEvent e e') : d.step b e = d.step b e' := by
      cases same with
      | same => rfl
      | poll p uninitialised =>
          have polled := poll_oblivious d p uninitialised gpio unqueued stick remapped
          simp only [Device.step, polled]
    have states := run_eq_of_forall₂ blind same d
    refine ⟨states, fun p uninitialised => ?_⟩
    rw [← states]
    exact poll_oblivious _ p uninitialised gpio unqueued stick remapped

/-- The microdash as it is, without the input queue. -/
theorem microdash_oblivious :
    (∀ d p, StoresInside { microdash with inputQueue := false } d p) ∧
      (Oblivious { microdash with inputQueue := false } ↔
        Remapped { microdash with inputQueue := false }) :=
  oblivious_iff rfl rfl (by unfold StickAvailable; decide) (Or.inl rfl)

/-- The microdash with a stick only. -/
def bareMicrodash : Board :=
  { microdash with
    available := fun g => g ∈ [.stickUp, .stickDown, .stickRight, .stickLeft]
    inputQueue := false }

theorem bareMicrodash_leaks : ¬ Oblivious bareMicrodash := by
  have target : defaultMapping bareMicrodash OutputButton.l3.gpio = Gpio.buttonThumbLeft.offset := by
    decide
  exact leaks rfl rfl target (by decide)

end PassingLink.Input
