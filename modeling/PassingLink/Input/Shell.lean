import PassingLink.Lib.Runs
import PassingLink.Input.QueueStorage

/-! `shell.cpp` on a board with external inputs: what its commands make of `input_state`. -/
namespace PassingLink.Input
open Lib

/-! ### The names of the inputs -/

def Gpio.name : Gpio → String
  | .stickUp => "stick_up"
  | .stickDown => "stick_down"
  | .stickRight => "stick_right"
  | .stickLeft => "stick_left"
  | .buttonNorth => "button_north"
  | .buttonEast => "button_east"
  | .buttonSouth => "button_south"
  | .buttonWest => "button_west"
  | .buttonL1 => "button_l1"
  | .buttonL2 => "button_l2"
  | .buttonL3 => "button_l3"
  | .buttonR1 => "button_r1"
  | .buttonR2 => "button_r2"
  | .buttonR3 => "button_r3"
  | .buttonStart => "button_start"
  | .buttonSelect => "button_select"
  | .buttonHome => "button_home"
  | .buttonTouchpad => "button_touchpad"
  | .buttonMenu => "button_menu"
  | .buttonW => "button_w"
  | .buttonThumbLeft => "button_thumb_left"
  | .buttonThumbRight => "button_thumb_right"
  | .modeLock => "mode_lock"
  | .modePs3 => "mode_ps3"
  | .modeLs => "mode_ls"
  | .modeRs => "mode_rs"
  | .modeDpad => "mode_dpad"

/-- A null pointer for a name with neither prefix. -/
def shorten (name : List Char) : Option (List Char) :=
  if "button_".toList.isPrefixOf name then some (name.drop "button_".length)
  else if "stick_".toList.isPrefixOf name then some (name.drop "stick_".length)
  else none

/-- The sign and the rest of an argument. -/
def signed : List Char → Bool × List Char
  | '+' :: arg => (true, arg)
  | '-' :: arg => (false, arg)
  | arg => (true, arg)

/-- What comes of an argument: `fault` is a call of `strcmp` with a null pointer. -/
inductive Parsed where
  | parsed (state : RawInputState)
  | failed
  | fault

/-- The comparisons that `PL_GPIOS` expands to, one after the other. -/
def parseNames (state : RawInputState) (value : Bool) (arg : List Char) : List Gpio → Parsed
  | [] => .failed
  | g :: names =>
      if arg = g.name.toList then .parsed (Function.update state g value)
      else
        match shorten g.name.toList with
        | none => .fault
        | some shortName =>
            if arg = shortName then .parsed (Function.update state g value)
            else parseNames state value arg names

def parseButton (state : RawInputState) (arg : List Char) : Parsed :=
  let (value, arg) := signed arg
  parseNames state value arg Gpio.all

/-- The loop of `cmd_input_modify`. -/
def parseButtons (state : RawInputState) : List (List Char) → Parsed
  | [] => .parsed state
  | arg :: args =>
      match parseButton state arg with
      | .parsed state => parseButtons state args
      | other => other

/-! ### The commands -/

/-- `cmd_input_home`, which touches nothing but the queue, with what it prints. -/
def cmdInputHome (ticksPerSec : Nat) (q : Queue) (now : Nat) : Option String × Queue :=
  match inputQueueAlloc q with
  | (none, q) => (some "failed to allocate!", q)
  | (some head, q) =>
      let state := Function.update RawInputState.released .buttonHome true
      let q := q.fill head state (kUsToTicksCeil64 ticksPerSec 33333)
      match inputQueueAppend q head with
      | (none, q) => (some "failed to allocate!", inputQueueFree q (some head))
      | (some next, q) =>
          let q := q.fill next RawInputState.released (kUsToTicksCeil64 ticksPerSec 33333)
          (none, inputQueueSetActive q (some head) true now)

/-- `input_state` and the queue. Nothing is known of the device after a fault. -/
structure Shell where
  inputState : RawInputState
  queue : Queue
  faulted : Bool

inductive ShellEvent where
  | clear
  /-- The arguments that follow the name of the command. -/
  | modify (args : List (List Char)) (now : Nat)
  | home (now : Nat)
  | poll (now : Nat)

namespace Shell

def boot : Shell := ⟨RawInputState.released, Queue.boot, false⟩

def inputGetRawState (s : Shell) (now : Nat) : RawInputState × Shell :=
  match inputQueueGetState s.queue now with
  | (some input, queue) => (input, { s with queue })
  | (none, queue) => (s.inputState, { s with queue })

def inputSetRawState (s : Shell) (state : RawInputState) : Shell := { s with inputState := state }

/-- It prints that the inputs are cleared. -/
def cmdInputClear (s : Shell) : Shell := s

def cmdInputModify (s : Shell) (args : List (List Char)) (now : Nat) : Shell :=
  let (state, s) := s.inputGetRawState now
  if args = [] then s
  else
    match parseButtons state args with
    | .parsed state => s.inputSetRawState state
    | .failed => s
    | .fault => { s with faulted := true }

def step (ticksPerSec : Nat) (s : Shell) (e : ShellEvent) : Shell :=
  if s.faulted then s
  else
    match e with
    | .clear => s.cmdInputClear
    | .modify args now => s.cmdInputModify args now
    | .home now => { s with queue := (cmdInputHome ticksPerSec s.queue now).2 }
    | .poll now => (s.inputGetRawState now).2

end Shell

/-! ### What the commands are for -/

def spells (arg : List Char) (g : Gpio) : Bool :=
  arg = g.name.toList ∨ shorten g.name.toList = some arg

def named (arg : List Char) : Option Gpio := Gpio.all.find? (spells (signed arg).2)

def change (arg : List Char) : Option (Gpio × Bool) :=
  (named arg).map fun g => (g, (signed arg).1)

def setAll (state : RawInputState) (changes : List (Gpio × Bool)) : RawInputState :=
  changes.foldl (fun state c => Function.update state c.1 c.2) state

/-- `clear` releases everything, `modify` sets what it names if all of its arguments name
something, and nothing else is a command for the inputs. -/
def shellLaw (state : RawInputState) : ShellEvent → RawInputState
  | .clear => RawInputState.released
  | .modify args _ =>
      match args.mapM change with
      | some changes => setAll state changes
      | none => state
  | .home _ | .poll _ => state

/-- What is left of the state when nothing has gone wrong. -/
def Shell.value (s : Shell) : Option RawInputState :=
  if s.faulted then none else some s.inputState

/-- An input in front of `mode_ps3`: all later ones come after a name without a short one. -/
def Known (arg : List Char) : Prop := ∃ g ∈ Gpio.all.take 23, spells (signed arg).2 g = true

/-- The element that stands in for the inputs at a tick. -/
def Queue.standIn (q : Queue) (now : Nat) : Option RawInputState :=
  q.next.map fun p => if q.nextTick < now then (q.storage p).state else q.input

/-- `clear` comes when nothing is pressed. `modify` names only known inputs, and while a queue
plays, its element is the state itself in all the inputs that are not named. -/
def Shell.Keeps (s : Shell) : ShellEvent → Prop
  | .clear => s.inputState = RawInputState.released
  | .modify args now =>
      args = [] ∨ (∀ arg ∈ args, Known arg) ∧
        ∀ input, s.queue.standIn now = some input →
          ∀ g, (∀ arg ∈ args, named arg ≠ some g) → input g = s.inputState g
  | .home _ | .poll _ => True

section Parsing
variable {state : RawInputState} {value : Bool} {arg : List Char} {args : List (List Char)}

theorem parseNames_append {names : List Gpio}
    (short : ∀ g ∈ names, shorten g.name.toList ≠ none) (rest : List Gpio) :
    parseNames state value arg (names ++ rest) =
      match names.find? (spells arg) with
      | some g => .parsed (Function.update state g value)
      | none => parseNames state value arg rest := by
  induction names with
  | nil => rfl
  | cons g names ih =>
      have later := ih fun g' member => short g' (List.mem_cons_of_mem g member)
      obtain ⟨shortName, shortened⟩ :=
        Option.ne_none_iff_exists'.mp (short g List.mem_cons_self)
      simp only [List.cons_append, parseNames, shortened, List.find?_cons]
      by_cases full : arg = g.name.toList
      · have found : spells arg g = true := decide_eq_true (Or.inl full)
        rw [if_pos full, found]
      · rw [if_neg full]
        by_cases same : arg = shortName
        · have found : spells arg g = true := by
            apply decide_eq_true
            rw [same]
            exact Or.inr shortened
          rw [if_pos same, found]
        · have missed : spells arg g = false := by
            apply decide_eq_false
            intro either
            cases either with
            | inl is => exact full is
            | inr is =>
                rw [shortened] at is
                exact same (Option.some.inj is).symm
          rw [if_neg same, missed]
          exact later

/-- The first name without a short one is `mode_lock`; what is not found by then is a fault. -/
theorem parseButton_eq :
    parseButton state arg =
      match (Gpio.all.take 23).find? (spells (signed arg).2) with
      | some g => .parsed (Function.update state g (signed arg).1)
      | none => .fault := by
  obtain ⟨front, rest, first, split, short⟩ : ∃ front rest,
      Gpio.all.take 23 = front ++ [.modeLock] ∧ Gpio.all = front ++ .modeLock :: rest ∧
        ∀ g ∈ front, shorten g.name.toList ≠ none :=
    ⟨Gpio.all.take 22, Gpio.all.drop 23, rfl, rfl, by decide⟩
  have long : shorten (Gpio.name .modeLock).toList = none := by decide
  unfold parseButton
  rw [first, List.find?_append, split]
  simp only [parseNames_append short]
  cases front.find? (spells (signed arg).2) with
  | some g => rfl
  | none =>
      simp only [Option.none_or, parseNames, long, List.find?_cons, List.find?_nil]
      by_cases lock : (signed arg).2 = (Gpio.name .modeLock).toList
      · have found : spells (signed arg).2 .modeLock = true := decide_eq_true (Or.inl lock)
        rw [if_pos lock, found]
      · have missed : spells (signed arg).2 .modeLock = false := by
          apply decide_eq_false
          intro either
          cases either with
          | inl is => exact lock is
          | inr is =>
              rw [long] at is
              cases is
        rw [if_neg lock, missed]

theorem parseButton_known (known : Known arg) :
    ∃ g, named arg = some g ∧
      ∀ state, parseButton state arg = .parsed (Function.update state g (signed arg).1) := by
  obtain ⟨g, found⟩ := Option.isSome_iff_exists.mp (List.find?_isSome.mpr known)
  refine ⟨g, ?_, ?_⟩
  · have all : Gpio.all = Gpio.all.take 23 ++ Gpio.all.drop 23 := rfl
    rw [named, all, List.find?_append, found, Option.some_or]
  · intro state
    rw [parseButton_eq, found]

theorem parseButton_unknown (unknown : ¬ Known arg) : parseButton state arg = .fault := by
  have missed : (Gpio.all.take 23).find? (spells (signed arg).2) = none := by
    apply List.find?_eq_none.mpr
    intro g member spelt
    exact unknown ⟨g, member, spelt⟩
  rw [parseButton_eq, missed]

theorem parseButtons_known (known : ∀ arg ∈ args, Known arg) :
    ∃ changes, args.mapM change = some changes ∧
      (∀ g, (∀ c ∈ changes, c.1 ≠ g) ↔ ∀ arg ∈ args, named arg ≠ some g) ∧
      ∀ state, parseButtons state args = .parsed (setAll state changes) := by
  induction args with
  | nil => exact ⟨[], rfl, fun g => by simp only [List.not_mem_nil, false_imp_iff, implies_true],
      fun _ => rfl⟩
  | cons arg args ih =>
      obtain ⟨changes, read, names, parses⟩ := ih fun arg' member =>
        known arg' (List.mem_cons_of_mem arg member)
      obtain ⟨g, is, parse⟩ := parseButton_known (known arg List.mem_cons_self)
      have first : change arg = some (g, (signed arg).1) := by
        rw [change, is, Option.map_some]
      refine ⟨(g, (signed arg).1) :: changes, ?_, ?_, ?_⟩
      · rw [List.mapM_cons, first, read]
        rfl
      · intro g'
        simp only [List.forall_mem_cons, names, is, ne_eq, Option.some.injEq]
      · intro state
        simp only [parseButtons, parse, parses]
        rfl

theorem parseButtons_unknown (unknown : ¬ ∀ arg ∈ args, Known arg) :
    parseButtons state args = .fault := by
  induction args generalizing state with
  | nil => exact absurd (fun arg member => absurd member List.not_mem_nil) unknown
  | cons arg args ih =>
      by_cases known : Known arg
      · obtain ⟨g, -, parse⟩ := parseButton_known known
        simp only [parseButtons, parse]
        apply ih
        intro all
        exact unknown (List.forall_mem_cons.mpr ⟨known, all⟩)
      · simp only [parseButtons, parseButton_unknown known]

/-- Two states become the same exactly if they differ in no input that is left out. -/
theorem setAll_eq_iff {state state' : RawInputState} {changes : List (Gpio × Bool)} :
    setAll state changes = setAll state' changes ↔
      ∀ g, (∀ c ∈ changes, c.1 ≠ g) → state g = state' g := by
  induction changes generalizing state state' with
  | nil =>
      simp only [setAll, List.foldl_nil, List.not_mem_nil, false_imp_iff, implies_true,
        true_imp_iff]
      exact funext_iff
  | cons c changes ih =>
      have step (state : RawInputState) : setAll state (c :: changes) =
          setAll (Function.update state c.1 c.2) changes := rfl
      rw [step, step, ih]
      apply forall_congr'
      intro g
      by_cases here : c.1 = g
      · subst here
        simp only [Function.update_self, implies_true, List.forall_mem_cons, ne_eq,
          not_true_eq_false, false_and, false_imp_iff]
      · simp only [Function.update_of_ne (Ne.symm here), List.forall_mem_cons, ne_eq, here,
          not_false_eq_true, true_and]

end Parsing

section Steps
variable {ticksPerSec : Nat} {s : Shell}

theorem inputQueueGetState_fst (q : Queue) (now : Nat) :
    (inputQueueGetState q now).1 = q.standIn now := by
  unfold Queue.standIn
  cases next : q.next with
  | none => rw [getState_idle next, Option.map_none]
  | some p =>
      by_cases due : q.nextTick < now
      · rw [getState_due next due, Option.map_some, if_pos due]
      · rw [getState_waits next due, Option.map_some, if_neg due]

theorem inputGetRawState_eq (s : Shell) (now : Nat) :
    s.inputGetRawState now = ((s.queue.standIn now).getD s.inputState,
      { s with queue := (inputQueueGetState s.queue now).2 }) := by
  rw [← inputQueueGetState_fst]
  unfold Shell.inputGetRawState
  split
  · rename_i input queue got
    rw [got, Option.getD_some]
  · rename_i queue got
    rw [got, Option.getD_none]

theorem cmdInputModify_value (running : s.faulted = false) {args : List (List Char)}
    (given : args ≠ []) (now : Nat) :
    (s.cmdInputModify args now).value =
      match parseButtons ((s.queue.standIn now).getD s.inputState) args with
      | .parsed state => .some state
      | .failed => .some s.inputState
      | .fault => none := by
  unfold Shell.cmdInputModify
  simp only [inputGetRawState_eq, if_neg given]
  cases parseButtons ((s.queue.standIn now).getD s.inputState) args with
  | parsed state =>
      simp only [Shell.inputSetRawState, Shell.value, running, Bool.false_eq_true, if_false]
  | failed => simp only [Shell.value, running, Bool.false_eq_true, if_false]
  | fault => rfl

theorem modify_keeps_iff (running : s.faulted = false) (args : List (List Char)) (now : Nat) :
    (s.cmdInputModify args now).value = some (shellLaw s.inputState (.modify args now)) ↔
      s.Keeps (.modify args now) := by
  by_cases empty : args = []
  · subst empty
    apply iff_of_true _ (Or.inl rfl)
    simp only [Shell.cmdInputModify, inputGetRawState_eq, if_true, Shell.value, running,
      Bool.false_eq_true, if_false]
    rfl
  · rw [cmdInputModify_value running empty, Shell.Keeps, or_iff_right empty]
    by_cases known : ∀ arg ∈ args, Known arg
    · obtain ⟨changes, read, names, parses⟩ := parseButtons_known known
      simp only [parses, shellLaw, read, Option.some.injEq, setAll_eq_iff, names,
        and_iff_right known]
      cases s.queue.standIn now with
      | none =>
          simp only [Option.getD_none, implies_true, reduceCtorEq, false_imp_iff]
      | some input =>
          simp only [Option.getD_some, Option.some.injEq, forall_eq']
    · rw [parseButtons_unknown known]
      apply iff_of_false
      · intro same
        cases same
      · exact fun keeps => known keeps.1

theorem keeps_iff (running : s.faulted = false) (e : ShellEvent) :
    (s.step ticksPerSec e).value = s.value.map (fun state => shellLaw state e) ↔ s.Keeps e := by
  have value : s.value = some s.inputState := if_neg (Bool.eq_false_iff.mp running)
  rw [value, Option.map_some]
  simp only [Shell.step, running, Bool.false_eq_true, if_false]
  cases e with
  | clear =>
      simp only [Shell.cmdInputClear, value]
      exact Option.some_inj
  | modify args now => exact modify_keeps_iff running args now
  | home now =>
      apply iff_of_true _ trivial
      rfl
  | poll now =>
      apply iff_of_true _ trivial
      change (s.inputGetRawState now).2.value = some s.inputState
      rw [inputGetRawState_eq]
      exact if_neg (Bool.eq_false_iff.mp running)

theorem running_of_follows {e : ShellEvent} (running : s.faulted = false)
    (follows : (s.step ticksPerSec e).value = s.value.map (fun state => shellLaw state e)) :
    (s.step ticksPerSec e).faulted = false := by
  have value : s.value = some s.inputState := if_neg (Bool.eq_false_iff.mp running)
  rw [value, Shell.value] at follows
  cases faulted : (s.step ticksPerSec e).faulted with
  | false => rfl
  | true =>
      rw [faulted] at follows
      cases follows

end Steps

/-- At every point of a run `input_state` is the fold of the commands exactly if no `clear`
has anything to release, and every `modify` has only known names and, while a queue plays,
an element to start from that agrees with `input_state` in the inputs that are not named. -/
theorem input_state_follows_iff (ticksPerSec : Nat) (es : List ShellEvent) :
    (∀ before, before <+: es → (run (Shell.step ticksPerSec) Shell.boot before).value =
      some (before.foldl shellLaw RawInputState.released)) ↔
    Along (Shell.step ticksPerSec) Shell.Keeps Shell.boot es := by
  have fold (before : List ShellEvent) (state : RawInputState) :
      run (fun value e => Option.map (fun state => shellLaw state e) value) (some state) before =
        some (before.foldl shellLaw state) := by
    induction before generalizing state with
    | nil => rfl
    | cons e before ih => exact ih (shellLaw state e)
  have follows := @along_follows _ _ (Shell.step ticksPerSec) _ Shell.value
    (fun value e => value.map fun state => shellLaw state e) Shell.boot es
  have boot : Shell.boot.value = some RawInputState.released := rfl
  simp only [boot, fold] at follows
  rw [follows]
  have agree (s : Shell) (e : ShellEvent) (running : s.faulted = false) :
      (s.step ticksPerSec e).value = s.value.map (fun state => shellLaw state e) ↔ s.Keeps e :=
    keeps_iff running e
  have preserved (s : Shell) (e : ShellEvent) (running : s.faulted = false)
      (follows : (s.step ticksPerSec e).value = s.value.map fun state => shellLaw state e) :
      (s.step ticksPerSec e).faulted = false := running_of_follows running follows
  exact along_congr_of_kept agree preserved rfl es

/-- `input modify up` and then `input clear`. -/
def clearPressed : List ShellEvent := [.modify ["up".toList] 1, .clear]

theorem clear_releases_nothing :
    ¬ ∀ ticksPerSec es, (run (Shell.step ticksPerSec) Shell.boot es).value =
      some (es.foldl shellLaw RawInputState.released) := by
  intro all
  have released := congrArg (Option.map fun state => state .stickUp) (all 32768 clearPressed)
  exact absurd released (by decide)

end PassingLink.Input
