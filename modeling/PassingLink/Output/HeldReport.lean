import PassingLink.Input.Held
import PassingLink.Output.Firmware

/-! What the host reads once the inputs have been held for the time of the debouncer, whatever has
been pressed, asked for and set before. -/
namespace PassingLink.Output
open Display Input Lib HidDescriptor

/-- The poll that an event comes to. -/
def Controller.polls (s : Controller) (e : ControllerEvent) : Option Poll :=
  if s.front.device.halted then none
  else
    match e with
    | .expire _ p _ _ => if s.pending.isSome then some p else none
    | .getReport reportId buf p => if reportId = 0x01 ∧ buf.length = 64 then some p else none
    | .front (.input (.poll p)) => some p
    | _ => none

/-- A poll finds the inputs of the board held. -/
def Controller.Reads (b : Board) (held : RawInputState) (s : Controller) (e : ControllerEvent) :
    Prop :=
  ∀ p, s.polls e = some p → Agree b (inputGetRawState b s.front.device p) held

/-- No button has been debounced, and no time has passed. -/
structure Rested (d d' : Device) : Prop where
  buttonHistory : d'.buttonHistory = d.buttonHistory
  clock : d'.clock = d.clock

theorem Rested.refl (d : Device) : Rested d d := ⟨rfl, rfl⟩

theorem Rested.trans {d d' d'' : Device} (first : Rested d d') (second : Rested d' d'') :
    Rested d d'' :=
  ⟨second.buttonHistory.trans first.buttonHistory, second.clock.trans first.clock⟩

section Steps
variable {memory : Memory} {b : Board} {version : CString}

theorem front_rested (s : Front) {e : FrontEvent} (other : ∀ e', e ≠ .input e') :
    Rested s.device (s.step memory b version e).device := by
  unfold Front.step
  split
  · exact .refl _
  · cases e with
    | input e' => exact absurd rfl (other e')
    | menu call =>
        dsimp only
        rw [Front.call_device]
        have untouched := menuCalls_untouched b s.device [call]
        exact ⟨untouched.buttonHistory, untouched.clock⟩
    | inputRead ticks =>
        dsimp only [Front.recordInputRead]
        split <;> exact .refl _
    | usbWrite ticks =>
        dsimp only [Front.recordUsbWrite]
        split
        · split <;> exact .refl _
        · exact .refl _
    | connection | touchpad | uninit => exact ⟨rfl, rfl⟩

theorem submitWrite_rested (s : Controller) (read : I2cRead) :
    Rested s.front.device (s.submitWrite memory b version read).front.device :=
  front_rested s.front fun _ => by intro is; cases is

theorem polled_device (s : Controller) (ticks : UInt64) (p : Poll) (counter : UInt8) :
    (s.polled memory b version ticks p counter).front.device = s.front.device.step b (.poll p) := by
  have moved : (s.polled memory b version ticks p counter).front.device =
      (s.front.step memory b version (.inputRead ticks)).device.step b (.poll p) :=
    Front.step_input_device _ _
  rw [moved, inputRead_device]

theorem getInputReport_device (s : Controller) (reportId : UInt8) (buf : List UInt8) (p : Poll) :
    (s.getInputReport memory b version reportId buf p).2.front.device =
      if reportId = 0x01 ∧ buf.length = 64 then s.front.device.step b (.poll p)
      else s.front.device := by
  have moved : (s.call memory b version (.input (.poll p))).front.device =
      s.front.device.step b (.poll p) := Front.step_input_device _ _
  unfold Controller.getInputReport
  by_cases polls : reportId = 0x01 ∧ buf.length = 64
  · rw [if_pos polls, if_pos polls]
    cases s.hid <;> exact moved
  · rw [if_neg polls, if_neg polls]
    cases s.hid <;> rfl

/-- Of the inputs an event does at most one thing. -/
theorem step_device (s : Controller) (e : ControllerEvent) :
    (∃ e', Rested (s.front.device.step b e') (s.step memory b version e).front.device ∧
        ∀ p, e' = .poll p → s.polls e = some p) ∨
      Rested s.front.device (s.step memory b version e).front.device := by
  unfold Controller.step Controller.polls
  by_cases halted : s.front.device.halted = true
  · rw [if_pos halted]
    exact .inr (.refl _)
  · rw [if_neg halted, if_neg halted]
    cases e with
    | setIdle read => exact .inr (submitWrite_rested s read)
    | clearHalt endpoint read =>
        refine .inr ?_
        dsimp only
        split <;> split
        · exact submitWrite_rested _ read
        · exact submitWrite_rested _ read
        · exact .refl _
        · exact .refl _
    | intInReady ticks read =>
        refine .inr ?_
        dsimp only
        split
        · have measured : Rested s.front.device
              (s.front.step memory b version (.usbWrite ticks)).device :=
            front_rested s.front fun _ => by intro is; cases is
          exact measured.trans (submitWrite_rested
            ({ s with owed := s.owed - 1 }.call memory b version (.usbWrite ticks)) read)
        · exact .refl _
    | expire ticks p rc read =>
        dsimp only
        by_cases due : s.pending.isSome = true
        · rw [if_pos due, if_pos due]
          refine .inl ⟨.poll p, ?_, fun p' same => by cases same; rfl⟩
          have report := @written memory b version { s with pending := none } ticks p rc read
          generalize Controller.writeReport memory b version { s with pending := none } ticks p rc
            read = result at report
          have device := @polled_device memory b version { s with pending := none } ticks p
          cases report with
          | halted counter halts => exact device counter ▸ .refl _
          | retried counter => exact device counter ▸ submitWrite_rested _ read
          | taken counter bytes decodes => exact device counter ▸ .refl _
        · rw [if_neg due]
          exact .inr (.refl _)
    | getReport reportId buf p =>
        dsimp only
        rw [getInputReport_device]
        by_cases polls : reportId = 0x01 ∧ buf.length = 64
        · rw [if_pos polls, if_pos polls]
          exact .inl ⟨.poll p, .refl _, fun p' same => by cases same; rfl⟩
        · rw [if_neg polls]
          exact .inr (.refl _)
    | front e =>
        cases e with
        | input e =>
            refine .inl ⟨e, ?_, ?_⟩
            · have moved : (s.call memory b version (.input e)).front.device =
                  s.front.device.step b e := Front.step_input_device _ _
              exact moved ▸ .refl _
            · rintro p rfl
              rfl
        | menu | inputRead | usbWrite | connection | touchpad | uninit =>
            exact .inr (front_rested s.front fun _ => by intro is; cases is)

theorem ticksPast_controller (s : Controller) (e : ControllerEvent)
    (past : TicksPast s.front.device) : TicksPast (s.step memory b version e).front.device := by
  rcases @step_device memory b version s e with ⟨e', rested, -⟩ | rested
  · intro g
    rw [rested.buttonHistory, rested.clock]
    exact ticksPast_step past e' g
  · intro g
    rw [rested.buttonHistory, rested.clock]
    exact past g

theorem holding_controller {held : RawInputState} {since : Nat} (s : Controller)
    (e : ControllerEvent) (reads : s.Reads b held e)
    (holds : Holding b held since s.front.device) :
    Holding b held since (s.step memory b version e).front.device := by
  rcases @step_device memory b version s e with ⟨e', rested, polls⟩ | rested
  · intro g available
    rw [rested.buttonHistory]
    cases halted : s.front.device.halted with
    | true =>
        rw [step_halted halted]
        exact holds g available
    | false =>
        cases e' with
        | poll p =>
            rw [step_poll halted]
            exact holding_poll holds (reads p (polls p rfl)) g available
        | setLocked | setRawState =>
            rw [(step_other_history (by intro p is; cases is)).1]
            exact holds g available
  · intro g available
    rw [rested.buttonHistory]
    exact holds g available

theorem polls_expire {s : Controller} {ticks : UInt64} {p p' : Poll} {rc : Int} {read : I2cRead}
    (polls : s.polls (.expire ticks p rc read) = some p') : p = p' := by
  unfold Controller.polls at polls
  split at polls
  · cases polls
  · dsimp only at polls
    split at polls
    · exact Option.some.inj polls
    · cases polls

theorem delivered_polls {s : Controller} {ticks : UInt64} {p : Poll} {rc : Int} {read : I2cRead}
    {bytes : List UInt8}
    (delivered : s.delivered memory b version (.expire ticks p rc read) = some bytes) :
    s.polls (.expire ticks p rc read) = some p := by
  simp only [Controller.delivered] at delivered
  split at delivered
  · cases delivered
  · rename_i due
    rw [not_or] at due
    have pending : s.pending.isSome = true := Option.isSome_iff_ne_none.mpr due.2
    rw [Controller.polls, if_neg due.1, if_pos pending]

end Steps

/-- Whatever has been done before, once the inputs have been held for the time of a transition,
a report that the host takes says what they mean: nothing while they belong to the menu, and
otherwise every button and the direction of the stick, in the mode, the profile and the policies
that are set. -/
theorem held_reported (memory : Memory) (b : Board) (version : CString) (hid : ProbeType)
    (ticks : UInt32) (stick : StickAvailable b) (remapped : Remapped b) (fits : SocdFits b)
    (before hold : List ControllerEvent) (held : RawInputState) (uptime : UInt64) (p : Poll)
    (rc : Int) (read : I2cRead) :
    let start := run (Controller.step memory b version) (Controller.init memory b hid ticks) before
    let s := run (Controller.step memory b version) start hold
    let d := s.front.device
    let e : ControllerEvent := .expire uptime p rc read
    Along (Controller.step memory b version) (Controller.Reads b held) start (hold ++ [e]) →
    start.front.device.clock + kMsToCycCeil64 b.cyclesPerSec 5 ≤ d.tick p →
    StoresInside b d p ∧ ∀ bytes, s.delivered memory b version e = some bytes →
      (MenuMeant b d p held → Decodes s.hid (InputState.neutral d.touchpadData) bytes) ∧
        (¬ MenuMeant b d p held → d.Timeless b held → Decodes s.hid (d.meant b held) bytes) := by
  intro start s d e reads late
  refine ⟨storesInside_iff.mpr fits, fun bytes delivered => ?_⟩
  have booted : TicksPast (Controller.init memory b hid ticks).front.device :=
    fun _ => Nat.zero_le _
  have past : TicksPast start.front.device :=
    run_invariant (fun s e => ticksPast_controller s e) booted before
  have begun : Holding b held start.front.device.clock start.front.device :=
    fun g _ => .inr (past g)
  obtain ⟨along, last, -⟩ := (along_append start hold [e]).mp reads
  have holds : Holding b held start.front.device.clock d :=
    run_invariant_of_legal (fun s e reads => holding_controller s e reads) begun along
  have decodes : Decodes s.hid (inputGetState b d p).out bytes := by
    obtain ⟨ticks', p', rc', read', is, decodes⟩ := delivered_decodes delivered
    obtain ⟨-, rfl, -, -⟩ := ControllerEvent.expire.inj is
    exact decodes
  obtain ⟨menu, direct⟩ :=
    poll_meant stick remapped holds (last p (delivered_polls delivered)) late
  refine ⟨fun meant => ?_, fun passed timeless => ?_⟩
  · rw [← menu meant]
    exact decodes
  · rw [← direct passed timeless]
    exact decodes

def leftAndB : RawInputState := fun g => g ∈ [Gpio.stickLeft, .buttonSouth]

/-- X is tapped, and then left and B are held. -/
def tapped : List ControllerEvent := [.setIdle ⟨0, answer⟩,
  .expire 90 (Poll.holding [.buttonNorth] 700) 0 ⟨0, answer⟩, .intInReady 95 ⟨0, answer⟩]

def beingHeld : List ControllerEvent := [
  .expire 100 (Poll.holding [.stickLeft, .buttonSouth] 10) 0 ⟨0, answer⟩,
  .intInReady 105 ⟨0, answer⟩]

theorem left_reported :
    let step := Controller.step noMemory microdash versionText
    let s := run step (run step (Controller.init noMemory microdash .nx 22) tapped) beingHeld
    let e : ControllerEvent :=
      .expire 110 (Poll.holding [.stickLeft, .buttonSouth] 200) 0 ⟨0, answer⟩
    ∃ bytes, s.delivered noMemory microdash versionText e = some bytes ∧
      Decodes s.hid (s.front.device.meant microdash leftAndB) bytes ∧
      (s.front.device.meant microdash leftAndB).dpad = .west ∧
      (s.front.device.meant microdash leftAndB).button .south = true ∧
      (s.front.device.meant microdash leftAndB).button .north = false := by
  have agrees (d : Device) (elapsed : Nat) : Agree microdash
      (inputGetRawState microdash d (Poll.holding [.stickLeft, .buttonSouth] elapsed))
      leftAndB := by
    intro g available
    simp only [inputGetRawState, microdash, if_true, Poll.holding, Option.getD_none]
    exact if_pos available
  have reads : ∀ e ∈ beingHeld ++
      [.expire 110 (Poll.holding [.stickLeft, .buttonSouth] 200) 0 ⟨0, answer⟩],
      ∀ s : Controller, s.Reads microdash leftAndB e := by
    intro e member s p polls
    rcases List.mem_append.mp member with early | last
    · rcases List.mem_cons.mp early with rfl | rest
      · rw [← polls_expire polls]
        exact agrees _ 10
      · rw [List.mem_singleton.mp rest] at polls
        unfold Controller.polls at polls
        dsimp only at polls
        rw [ite_self] at polls
        cases polls
    · rw [List.mem_singleton.mp last] at polls
      rw [← polls_expire polls]
      exact agrees _ 200
  have report := held_reported noMemory microdash versionText .nx 22
    (by unfold StickAvailable; decide) (by unfold Remapped; decide) (by decide) tapped beingHeld
    leftAndB 110 (Poll.holding [.stickLeft, .buttonSouth] 200) 0 ⟨0, answer⟩
    (along_of_forall reads _) (by decide +kernel)
  dsimp only
  refine Exists.imp (fun bytes delivered =>
    ⟨delivered, (report.2 bytes delivered).2 ?_ ⟨?_, ?_⟩, ?_, ?_, ?_⟩)
    (Option.isSome_iff_exists.mp ?_)
  · exact fun meant => Bool.false_ne_true meant.2.1
  · exact fun _ both => Bool.false_ne_true both.2
  · exact fun _ both => Bool.false_ne_true both.1
  all_goals decide +kernel

end PassingLink.Output
