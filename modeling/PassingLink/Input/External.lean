import PassingLink.Input.Gesture

/-! What becomes of inputs that are injected with `input_set_raw_state`. -/
namespace PassingLink.Input
open Lib

variable {b : Board} {d : Device} {p : Poll} {s : RawInputState}

/-- The injected state has been polled since tick `since`: what an input has recorded after
that is its injected level. -/
structure Settling (b : Board) (s : RawInputState) (since : Nat) (d : Device) : Prop where
  rawState : d.rawState = s
  recorded : ∀ g, b.available g = true →
    (d.buttonHistory g).tick ≤ since ∨ (d.buttonHistory g).state = s g

theorem raw_of_external (external : b.inputMethod = .external) (idle : p.queued = none) :
    inputGetRawState b d p = d.rawState := by
  simp only [inputGetRawState, external, idle, Option.getD_none, ite_self]

theorem settling_poll {since : Nat} (external : b.inputMethod = .external)
    (idle : p.queued = none) (settling : Settling b s since d) :
    Settling b s since (d.step b (.poll p)) := by
  cases halted : d.halted with
  | true =>
      rw [step_halted halted]
      exact settling
  | false =>
      rw [step_poll halted]
      refine ⟨poll_untouched.rawState.trans settling.rawState, fun g available => ?_⟩
      rw [poll_buttonHistory, history_available available, raw_of_external external idle,
        settling.rawState]
      rcases inputDebounce_cases (kMsToCycCeil64 b.cyclesPerSec 5) (s g) (d.buttonHistory g)
        (d.tick p) with ⟨same, -⟩ | ⟨changed, -⟩
      · rw [same]
        exact settling.recorded g available
      · rw [changed]
        exact Or.inr rfl

theorem settling_polls {since : Nat} (external : b.inputMethod = .external) (polls : List Poll)
    (idle : ∀ q ∈ polls, q.queued = none) (settling : Settling b s since d) :
    Settling b s since (run (Device.step b) d (polls.map .poll)) := by
  induction polls generalizing d with
  | nil => exact settling
  | cons q polls ih =>
      apply ih (fun r member => idle r (List.mem_cons_of_mem q member))
      exact settling_poll external (idle q List.mem_cons_self) settling

theorem debounced_of_settling {since : Nat} (external : b.inputMethod = .external)
    (idle : p.queued = none) (settling : Settling b s since d)
    (long : since + kMsToCycCeil64 b.cyclesPerSec 5 ≤ d.tick p) : d.debounced b p = s := by
  funext g
  have raw : inputGetRawState b d p = s :=
    (raw_of_external external idle).trans settling.rawState
  cases available : b.available g with
  | false => rw [(history_unavailable available).2, raw]
  | true =>
      rw [← history_state available, history_available available, raw]
      rcases inputDebounce_cases (kMsToCycCeil64 b.cyclesPerSec 5) (s g) (d.buttonHistory g)
        (d.tick p) with ⟨same, equal | early⟩ | ⟨changed, -⟩
      · rw [same]
        exact equal.symm
      · rw [same]
        rcases settling.recorded g available with old | recorded
        · omega
        · exact recorded
      · rw [changed]

/-- The default mapping delivers the injected level of a button: a pressed button is among
the board's own pins, except that the handheld board reads its thumb buttons for L3 and R3. -/
def Delivered (b : Board) (s : RawInputState) (btn : OutputButton) : Prop :=
  if b.microdash = true ∧ btn = .l3 then s .buttonThumbLeft = s .buttonL3
  else if b.microdash = true ∧ btn = .r3 then s .buttonThumbRight = s .buttonR3
  else s btn.gpio = true → b.available btn.gpio = true

theorem mapped_baseMapping_iff (b : Board) (s : RawInputState) (g : Gpio) :
    mapped (baseMapping b) s g = s g ↔ (s g = true → b.available g = true) := by
  rw [mapped_baseMapping]
  cases b.available g <;> cases s g <;> decide

theorem mapped_default_iff (b : Board) (s : RawInputState) (btn : OutputButton) :
    mapped (defaultMapping b) s btn.gpio = s btn.gpio ↔ Delivered b s btn := by
  unfold Delivered
  by_cases left : b.microdash = true ∧ btn = .l3
  · obtain ⟨handheld, rfl⟩ := left
    have read : defaultMapping b .buttonL3 = Gpio.buttonThumbLeft.offset := by
      simp only [defaultMapping, handheld, and_self, if_true]
    simp only [OutputButton.gpio, mapped, read, offset_available, if_false, getBit_offset, handheld,
      and_self, if_true]
  · by_cases right : b.microdash = true ∧ btn = .r3
    · obtain ⟨handheld, rfl⟩ := right
      have read : defaultMapping b .buttonR3 = Gpio.buttonThumbRight.offset := by
        simp only [defaultMapping, handheld, reduceCtorEq, and_false, if_false, and_self, if_true]
      simp only [OutputButton.gpio, mapped, read, offset_available, if_false, getBit_offset,
        handheld, reduceCtorEq, and_false, and_self, if_true]
    · have base : defaultMapping b btn.gpio = baseMapping b btn.gpio := by
        have noLeft : ¬ (b.microdash = true ∧ btn.gpio = .buttonL3) := by
          rintro ⟨handheld, is⟩
          cases btn <;> first | exact absurd is (by decide) | exact left ⟨handheld, rfl⟩
        have noRight : ¬ (b.microdash = true ∧ btn.gpio = .buttonR3) := by
          rintro ⟨handheld, is⟩
          cases btn <;> first | exact absurd is (by decide) | exact right ⟨handheld, rfl⟩
        simp only [defaultMapping, if_neg noLeft, if_neg noRight]
      rw [if_neg left, if_neg right, ← mapped_baseMapping_iff, mapped, mapped, base]

def injected (b : Board) (es : List Event) (s : RawInputState) (polls : List Poll) : Device :=
  run (Device.step b) (reach b es) (.setRawState s :: polls.map .poll)

theorem settling_injected (external : b.inputMethod = .external) (es : List Event)
    (s : RawInputState) (polls : List Poll) (idle : ∀ q ∈ polls, q.queued = none)
    (running : (injected b es s polls).halted = false) :
    Settling b s (reach b es).clock (injected b es s polls) := by
  have started : (reach b es).halted = false := by
    cases halted : (reach b es).halted with
    | false => rfl
    | true => rw [injected, run_halted halted, halted] at running; cases running
  have installed : (reach b es).step b (.setRawState s) = { reach b es with rawState := s } := by
    simp only [Device.step, started, Bool.false_eq_true, if_false]
  apply settling_polls external polls idle
  rw [installed]
  exact ⟨rfl, fun g _ => Or.inl (reach_ticksPast b es g)⟩

/-- Long enough after the installation, with the default profile, no lock and no menu, the
console sees the injected buttons, in a poll that stays inside `socd_buf`, exactly when it does on
this board and the default mapping delivers all of them: an input that is not among the board's
own pins is mapped to nothing. -/
theorem injected_iff (b : Board) (external : b.inputMethod = .external) (es : List Event)
    (s : RawInputState) (polls : List Poll) (p : Poll)
    (idle : ∀ q ∈ p :: polls, q.queued = none)
    (running : (injected b es s polls).halted = false)
    (long : (reach b es).clock + kMsToCycCeil64 b.cyclesPerSec 5 ≤ (injected b es s polls).tick p)
    (profile : (injected b es s polls).activeProfileIdx = 0)
    (unlocked : (injected b es s polls).inputLocked = false)
    (noMenu : HasMenu b → s .buttonMenu = false) :
    (StoresInside b (injected b es s polls) p ∧
      ∀ btn, (inputGetState b (injected b es s polls) p).out.button btn = s btn.gpio) ↔
      SocdFits b ∧ ∀ btn, Delivered b s btn := by
  have settling := settling_injected external es s polls
    (fun q member => idle q (List.mem_cons_of_mem p member)) running
  have debounced := debounced_of_settling external (idle p List.mem_cons_self) settling long
  generalize injected b es s polls = d at running long profile unlocked settling debounced
  have free : ¬ MenuTakes b d p := by
    rintro ⟨⟨menu, pressed⟩, -⟩
    rw [history_state menu.2, debounced, noMenu menu] at pressed
    cases pressed
  have default : d.profile b = defaultProfile b := by
    simp only [Device.profile, profile, activeProfile, profiles]
    split <;> rfl
  refine and_congr storesInside_iff (forall_congr' fun btn => ?_)
  rw [poll_button, if_neg, Device.mappedInput, default, debounced]
  · exact mapped_default_iff b s btn
  · rintro (takes | ⟨locked, -⟩)
    · exact free takes
    · cases unlocked.symm.trans locked

def onlySouth : RawInputState := fun g => g = .buttonSouth

def latePoll : Poll := ⟨none, RawInputState.released, RawInputState.released, 1000, 0⟩

theorem dongle_injected_iff :
    (StoresInside plDongle (injected plDongle [] onlySouth [latePoll]) latePoll ∧
      ∀ btn, (inputGetState plDongle (injected plDongle [] onlySouth [latePoll])
        latePoll).out.button btn = onlySouth btn.gpio) ↔
      SocdFits plDongle ∧ ∀ btn, Delivered plDongle onlySouth btn := by
  refine injected_iff plDongle rfl [] onlySouth [latePoll] latePoll ?_ (by decide) (by decide)
    (by decide) (by decide) (fun _ => by decide)
  intro q member
  simp only [List.mem_cons, List.not_mem_nil, or_false, or_self] at member
  rw [member]
  rfl

/-- On the board without pins an injected press reaches the console in no report. -/
theorem dongle_press_lost :
    ¬ ∀ btn, (inputGetState plDongle (injected plDongle [] onlySouth []) latePoll).out.button btn =
      onlySouth btn.gpio := by
  intro delivered
  exact absurd (delivered .south) (by decide)

end PassingLink.Input
