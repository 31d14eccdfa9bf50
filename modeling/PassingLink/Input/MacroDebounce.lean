import PassingLink.Input.Parse
import PassingLink.Input.Playback

/-! The queue and the debouncer together: which elements of a chain are ever the debounced
state of the inputs. -/
namespace PassingLink.Input
open Lib

/-- A poll of the host, and what the pins say when no queue plays. -/
structure HostPoll where
  now : Nat
  pins : RawInputState

/-- The queue and the history of the inputs, with how many elements have been reached, and
two facts about the one reached last: whether it has been the debounced state in some poll,
and whether its last poll left no change waiting. -/
structure Console where
  owned : Owned
  history : ButtonHistory
  reached : Nat
  shown : Bool
  settled : Bool

def matching (state state' : RawInputState) : Bool := Gpio.all.all fun g => state g == state' g

namespace Console
variable (b : Board) (m : Playback) (c : Console) (p : HostPoll)

def raw : RawInputState := (inputQueueGetState c.owned.queue p.now).1.getD p.pins

def debounced : RawInputState := (debounceInputs b (c.raw p) c.history p.now).1

/-- Every change of an available input comes long enough after the one before. -/
def settles : Bool :=
  Gpio.all.all fun g =>
    !b.available g || c.raw p g == (c.history g).state ||
      decide (kMsToCycCeil64 b.cyclesPerSec 5 ≤ p.now - (c.history g).tick)

def step : Console :=
  let reached := m.reached c.reached p.now
  let plays := decide (c.reached < m.elements.length)
  { owned := c.owned.step (.getState p.now)
    history := (debounceInputs b (c.raw p) c.history p.now).2
    reached
    shown :=
      if plays then
        matching (c.debounced b p) (m.value reached) || (c.shown && reached == c.reached)
      else c.shown
    settled := if plays then c.settles b p else c.settled }

/-- The poll replaces the element, by the next one or by the real inputs. -/
def Replaces (j : Nat) : Prop :=
  c.reached = j + 1 ∧ (m.reached c.reached p.now ≠ c.reached ∨ c.reached = m.elements.length)

def Shows (j : Nat) : Prop := c.Replaces m p j → c.shown = true

def Settles (j : Nat) : Prop := c.Replaces m p j → c.settled = true

end Console

theorem matching_iff {state state' : RawInputState} :
    matching state state' = true ↔ ∀ g, state g = state' g := by
  unfold matching
  rw [List.all_eq_true]
  constructor
  · intro all g
    exact beq_iff_eq.mp (all g g.mem_all)
  · intro same g _
    exact beq_iff_eq.mpr (same g)

section Steps
variable {b : Board} {m : Playback} {c : Console} {p : HostPoll}

theorem settles_iff :
    c.settles b p = true ↔ ∀ g, b.available g = true → c.raw p g ≠ (c.history g).state →
      kMsToCycCeil64 b.cyclesPerSec 5 ≤ p.now - (c.history g).tick := by
  unfold Console.settles
  rw [List.all_eq_true]
  constructor
  · intro all g available differs
    have one := all g g.mem_all
    simp only [available, Bool.not_true, Bool.false_or, Bool.or_eq_true, beq_iff_eq,
      decide_eq_true_eq] at one
    exact one.resolve_left differs
  · intro waited g _
    cases available : b.available g with
    | false => rfl
    | true =>
        simp only [Bool.not_true, Bool.false_or, Bool.or_eq_true, beq_iff_eq, decide_eq_true_eq]
        by_cases same : c.raw p g = (c.history g).state
        · exact Or.inl same
        · exact Or.inr (waited g available same)

/-- What is recorded for the available inputs is the element. -/
def Recorded (b : Board) (history : ButtonHistory) (state : RawInputState) : Prop :=
  ∀ g, b.available g = true → (history g).state = state g

theorem debounceInputs_available {raw : RawInputState} {history : ButtonHistory} {now : Nat}
    {g : Gpio} (available : b.available g = true) :
    (debounceInputs b raw history now).1 g = ((debounceInputs b raw history now).2 g).state ∧
      (debounceInputs b raw history now).2 g =
        (inputDebounce (kMsToCycCeil64 b.cyclesPerSec 5) (raw g) (history g) now).2 := by
  simp only [debounceInputs, available, if_true, inputDebounce_value, and_self]

theorem debounced_matches {raw : RawInputState} {history : ButtonHistory} {now : Nat} :
    (∀ g, (debounceInputs b raw history now).1 g = raw g) ↔
      Recorded b (debounceInputs b raw history now).2 raw := by
  constructor
  · intro same g available
    rw [← (debounceInputs_available available).1]
    exact same g
  · intro recorded g
    cases available : b.available g with
    | false => simp only [debounceInputs, available, Bool.false_eq_true, if_false]
    | true => exact (debounceInputs_available available).1.trans (recorded g available)

theorem settled_matches {raw : RawInputState} {history : ButtonHistory} {now : Nat} :
    (∀ g, b.available g = true → raw g ≠ (history g).state →
      kMsToCycCeil64 b.cyclesPerSec 5 ≤ now - (history g).tick) ↔
      Recorded b (debounceInputs b raw history now).2 raw := by
  have one {g : Gpio} (available : b.available g = true) :
      ((debounceInputs b raw history now).2 g).state = raw g ↔ (raw g ≠ (history g).state →
        kMsToCycCeil64 b.cyclesPerSec 5 ≤ now - (history g).tick) := by
    rw [(debounceInputs_available available).2]
    rcases inputDebounce_cases (kMsToCycCeil64 b.cyclesPerSec 5) (raw g) (history g) now with
      ⟨same, equal | early⟩ | ⟨changed, differs, waited⟩
    · rw [same]
      exact iff_of_true equal.symm fun differs => absurd equal differs
    · rw [same]
      constructor
      · intro equal differs
        exact absurd equal.symm differs
      · intro waited
        by_contra differs
        exact Nat.not_lt.mpr (waited (Ne.symm differs)) early
    · rw [changed]
      exact iff_of_true rfl fun _ => waited
  constructor
  · intro waited g available
    exact (one available).mpr (waited g available)
  · intro recorded g available
    exact (one available).mp (recorded g available)

/-- Both facts about the element reached last say the same, and while it may be read again
they say that it is what has been recorded. -/
structure Console.Agree (b : Board) (m : Playback) (chain : List NodeRef) (c : Console) :
    Prop where
  playing : Playing m chain c.reached c.owned
  agree : 1 ≤ c.reached → (c.shown = true ↔ c.settled = true)
  recorded : 1 ≤ c.reached → c.reached < m.elements.length →
    (c.shown = true ↔ Recorded b c.history (m.value c.reached))

theorem Console.agree_step {chain : List NodeRef} (c : Console) (p : HostPoll)
    (agrees : c.Agree b m chain) : (c.step b m p).Agree b m chain := by
  obtain ⟨playing, agree, recorded⟩ := agrees
  obtain ⟨read, moved⟩ := playing.read p.now
  by_cases plays : c.reached < m.elements.length
  · have raw : c.raw p = m.value (m.reached c.reached p.now) := by
      rw [Console.raw, read, Playback.read, if_pos plays, Option.getD_some]
    have shown : (c.step b m p).shown = true ↔
        Recorded b (c.step b m p).history (m.value (m.reached c.reached p.now)) ∨
          c.shown = true ∧ m.reached c.reached p.now = c.reached := by
      have debounced : matching (c.debounced b p) (m.value (m.reached c.reached p.now)) = true ↔
          Recorded b (c.step b m p).history (m.value (m.reached c.reached p.now)) := by
        rw [matching_iff, ← raw]
        exact debounced_matches
      simp only [Console.step, plays, decide_true, if_true, Bool.or_eq_true, Bool.and_eq_true,
        beq_iff_eq] at debounced ⊢
      rw [debounced]
    have settled : (c.step b m p).settled = true ↔
        Recorded b (c.step b m p).history (m.value (m.reached c.reached p.now)) := by
      simp only [Console.step, plays, decide_true, if_true]
      rw [settles_iff, ← raw]
      exact settled_matches
    have shown' (begun : 1 ≤ m.reached c.reached p.now) : (c.step b m p).shown = true ↔
        Recorded b (c.step b m p).history (m.value (m.reached c.reached p.now)) := by
      rw [shown]
      constructor
      · intro either
        cases either with
        | inl now => exact now
        | inr before =>
            obtain ⟨before, stays⟩ := before
            rw [stays] at begun raw ⊢
            have kept := (recorded begun plays).mp before
            rw [← raw] at kept ⊢
            apply settled_matches.mp
            intro g available differs
            exact absurd (kept g available).symm differs
      · exact Or.inl
    constructor
    · exact moved
    · intro begun
      exact (shown' begun).trans settled.symm
    · intro begun _
      exact shown' begun
  · have ended : c.reached = m.elements.length :=
      Nat.le_antisymm playing.bound (Nat.not_lt.mp plays)
    have stays : m.reached c.reached p.now = c.reached := if_neg fun both => plays both.1
    have shown : (c.step b m p).shown = c.shown := by
      simp only [Console.step, plays, decide_false, Bool.false_eq_true, if_false]
    have settled : (c.step b m p).settled = c.settled := by
      simp only [Console.step, plays, decide_false, Bool.false_eq_true, if_false]
    have reached : (c.step b m p).reached = c.reached := stays
    constructor
    · exact moved
    · rw [reached, shown, settled]
      exact agree
    · rw [reached]
      intro _ again
      exact absurd again plays

end Steps

/-- An element of a chain that is handed over is the debounced state in one of its polls,
whenever it is replaced, exactly if every change that it makes has come long enough after
the one before by its last poll. -/
theorem element_shown_iff (b : Board) (calls₀ : List QueueCall)
    (legal : Along Owned.step Owned.Legal Owned.boot calls₀) (chain : List NodeRef)
    (member : chain ∈ (run Owned.step Owned.boot calls₀).owned) (p : NodeRef)
    (start : chain.head? = some p) (consume : Bool) (now : Nat) (history : ButtonHistory)
    (polls : List HostPoll) (j : Nat) :
    let s := run Owned.step Owned.boot calls₀
    let m : Playback := ⟨contents s.queue chain, now, s.queue.input⟩
    let c : Console := ⟨s.step (.setActive (some p) consume now), history, 0, false, false⟩
    Along (Console.step b m) (fun c poll => c.Shows m poll j) c polls ↔
      Along (Console.step b m) (fun c poll => c.Settles m poll j) c polls := by
  intro s m c
  have sound : s.Sound := run_invariant_of_legal Owned.sound_step Owned.sound_boot legal
  have initial : c.Agree b m chain := by
    constructor
    · exact playing_start sound member start consume now
    · intro begun
      cases begun
    · intro begun
      cases begun
  apply along_congr Console.agree_step _ initial
  intro c poll agrees
  have same (replaced : c.Replaces m poll j) : c.shown = true ↔ c.settled = true := by
    apply agrees.agree
    rw [replaced.1]
    exact Nat.succ_pos j
  constructor
  · intro shows replaced
    exact (same replaced).mp (shows replaced)
  · intro settles replaced
    exact (same replaced).mpr (settles replaced)

/-! ### Polls that are late, and polls that are not -/

/-- The chain is one whose delays leave the debouncer its time, and whose inputs have all
been released for that time. -/
structure Suited (b : Board) (m : Playback) (history : ButtonHistory) : Prop where
  available : ∀ element ∈ m.elements, ∀ g, element.1 g = true → b.available g = true
  threshold : kMsToCycCeil64 b.cyclesPerSec 5 = kMsToTicksCeil64 b.ticksPerSec 5
  delays : ∀ element ∈ m.elements.dropLast, kMsToCycCeil64 b.cyclesPerSec 5 ≤ element.2
  released : ∀ g, (history g).state = false ∧
    (history g).tick + kMsToCycCeil64 b.cyclesPerSec 5 ≤ m.start

def pressUp : RawInputState := fun g => g = .stickUp

/-- The chain that moves the camera up by one: a press and its release, 33333 us each. -/
def cameraCalls : List QueueCall :=
  [.alloc, .append 0, .append 1, .fill 0 pressUp 1093, .fill 1 RawInputState.released 1093,
    .fill 2 RawInputState.released 0]

/-- The polls come one second late, and catch up one element at a time. -/
def latePolls : List HostPoll :=
  [⟨34000, RawInputState.released⟩, ⟨34001, RawInputState.released⟩,
    ⟨34002, RawInputState.released⟩]

theorem cameraCalls_legal : Along Owned.step Owned.Legal Owned.boot cameraCalls := by
  refine ⟨⟨trivial, trivial⟩, ⟨⟨[0], ?_, rfl⟩, trivial⟩, ⟨⟨[0, 1], ?_, rfl⟩, trivial⟩,
    ⟨⟨[0, 1, 2], ?_, ?_⟩, trivial⟩, ⟨⟨[0, 1, 2], ?_, ?_⟩, trivial⟩,
    ⟨⟨[0, 1, 2], ?_, ?_⟩, trivial⟩, trivial⟩
  all_goals decide

theorem contents_camera :
    contents (run Owned.step Owned.boot cameraCalls).queue [0, 1, 2] =
      [(pressUp, 1093), (RawInputState.released, 1093), (RawInputState.released, 0)] := rfl

theorem suited_camera (now : Nat) (late : 1000 ≤ now) (stale : RawInputState) :
    Suited microdash ⟨contents (run Owned.step Owned.boot cameraCalls).queue [0, 1, 2], now, stale⟩
      (fun _ => Button.boot) := by
  rw [contents_camera]
  constructor
  · intro element member g pressed
    simp only [List.mem_cons, List.not_mem_nil, or_false] at member
    rcases member with rfl | rfl | rfl
    · rw [of_decide_eq_true pressed]
      decide
    · cases pressed
    · cases pressed
  · decide
  · have enough : ∀ element ∈ [(pressUp, 1093), (RawInputState.released, 1093)],
        kMsToCycCeil64 microdash.cyclesPerSec 5 ≤ element.2 := by decide
    exact enough
  · intro g
    have enough : kMsToCycCeil64 microdash.cyclesPerSec 5 ≤ 1000 := by decide
    refine ⟨rfl, ?_⟩
    change 0 + kMsToCycCeil64 microdash.cyclesPerSec 5 ≤ now
    omega

theorem late_release_lost :
    ¬ ∀ (b : Board) (calls₀ : List QueueCall),
      Along Owned.step Owned.Legal Owned.boot calls₀ → ∀ chain p,
      chain ∈ (run Owned.step Owned.boot calls₀).owned → chain.head? = some p →
      ∀ now history, let s := run Owned.step Owned.boot calls₀
      let m : Playback := ⟨contents s.queue chain, now, s.queue.input⟩
      Suited b m history → ∀ polls j, Along (Console.step b m) (fun c poll => c.Shows m poll j)
        ⟨s.step (.setActive (some p) true now), history, 0, false, false⟩ polls := by
  intro all
  have shows := all microdash cameraCalls cameraCalls_legal [0, 1, 2] 0 (by decide) rfl 1000
    (fun _ => Button.boot) (suited_camera 1000 (Nat.le_refl _) _) latePolls 1
  have last := shows.2.2.1 ⟨by decide, Or.inl (by decide)⟩
  exact absurd last (by decide)

/-- The release of the camera chain, with the late polls. -/
theorem camera_shown_iff :
    let s := run Owned.step Owned.boot cameraCalls
    let m : Playback := ⟨contents s.queue [0, 1, 2], 1000, s.queue.input⟩
    let c : Console :=
      ⟨s.step (.setActive (some 0) true 1000), fun _ => Button.boot, 0, false, false⟩
    Along (Console.step microdash m) (fun c poll => c.Shows m poll 1) c latePolls ↔
      Along (Console.step microdash m) (fun c poll => c.Settles m poll 1) c latePolls :=
  element_shown_iff microdash cameraCalls cameraCalls_legal [0, 1, 2] (by decide) 0 rfl true 1000
    (fun _ => Button.boot) latePolls 1

section Regular
variable {b : Board} {m : Playback} {chain : List NodeRef} {gap : Nat}

/-- Everything so far has been accepted at once, and early enough for the next element. -/
structure Console.Prompt (b : Board) (m : Playback) (chain : List NodeRef) (gap last : Nat)
    (c : Console) : Prop where
  playing : Playing m chain c.reached c.owned
  waiting : c.reached < m.elements.length → last ≤ m.due c.reached
  shown : 1 ≤ c.reached → c.shown = true
  recorded : c.reached < m.elements.length → Recorded b c.history (m.value c.reached)
  early : c.reached < m.elements.length → ∀ g, b.available g = true →
    (c.history g).tick + kMsToCycCeil64 b.cyclesPerSec 5 ≤ m.due c.reached

theorem history_unchanged {raw : RawInputState} {history : ButtonHistory} {now : Nat}
    (recorded : Recorded b history raw) (g : Gpio) :
    (debounceInputs b raw history now).2 g = history g := by
  cases available : b.available g with
  | false => simp only [debounceInputs, available, Bool.false_eq_true, if_false]
  | true =>
      rw [(debounceInputs_available available).2]
      rcases inputDebounce_cases (kMsToCycCeil64 b.cyclesPerSec 5) (raw g) (history g) now with
        ⟨same, -⟩ | ⟨-, differs, -⟩
      · exact same
      · exact absurd (recorded g available).symm differs

theorem history_tick_bound {raw : RawInputState} {history : ButtonHistory} {now : Nat} {g : Gpio}
    (available : b.available g = true) :
    ((debounceInputs b raw history now).2 g).tick = (history g).tick ∨
      ((debounceInputs b raw history now).2 g).tick = now := by
  rw [(debounceInputs_available available).2]
  rcases inputDebounce_cases (kMsToCycCeil64 b.cyclesPerSec 5) (raw g) (history g) now with
    ⟨same, -⟩ | ⟨changed, -, -⟩
  · rw [same]
    exact Or.inl rfl
  · rw [changed]
    exact Or.inr rfl

theorem Console.Prompt.raw_playing {last : Nat} {c : Console} {p : HostPoll}
    (prompt : c.Prompt b m chain gap last) (plays : c.reached < m.elements.length) :
    c.raw p = m.value (m.reached c.reached p.now) := by
  rw [Console.raw, (prompt.playing.read p.now).1, Playback.read, if_pos plays, Option.getD_some]

/-- Between two elements there is time for the debouncer and for a poll. -/
theorem due_spaced
    (delays : ∀ element ∈ m.elements.dropLast,
      kMsToCycCeil64 b.cyclesPerSec 5 + gap ≤ element.2)
    {reached : Nat} (more : reached + 1 < m.elements.length) :
    m.due reached + kMsToCycCeil64 b.cyclesPerSec 5 + gap ≤ m.due (reached + 1) := by
  have plays : reached < m.elements.length := Nat.lt_of_succ_lt more
  have here : m.elements[reached]? = some m.elements[reached] := List.getElem?_eq_getElem plays
  have inner : m.elements.dropLast[reached]? = some m.elements[reached] := by
    rw [List.getElem?_dropLast, if_pos (by omega), here]
  have spare := delays _ (List.mem_of_getElem? inner)
  rw [m.due_succ here]
  omega

/-- A poll that moves the queue on accepts the next element at once. -/
theorem Console.Prompt.moved {last : Nat} {c : Console} {p : HostPoll}
    (delays : ∀ element ∈ m.elements.dropLast,
      kMsToCycCeil64 b.cyclesPerSec 5 + gap ≤ element.2)
    (soon : p.now ≤ last + gap) (prompt : c.Prompt b m chain gap last)
    (plays : c.reached < m.elements.length) (due : m.due c.reached < p.now) :
    (c.step b m p).Prompt b m chain gap p.now := by
  have raw := prompt.raw_playing (p := p) plays
  have moved := (prompt.playing.read p.now).2
  have slow := prompt.waiting plays
  have early := prompt.early plays
  have moves : m.reached c.reached p.now = c.reached + 1 := if_pos ⟨plays, due⟩
  have reached : (c.step b m p).reached = c.reached + 1 := moves
  rw [moves] at raw moved
  have accepted : Recorded b (c.step b m p).history (c.raw p) := by
    apply settled_matches.mp
    intro g available _
    have before := early g available
    omega
  constructor
  · rw [reached]
    exact moved
  · rw [reached]
    intro more
    have later := due_spaced delays more
    omega
  · intro _
    simp only [Console.step, plays, decide_true, if_true, moves, Bool.or_eq_true]
    left
    rw [matching_iff, ← raw]
    exact debounced_matches.mpr accepted
  · rw [reached, ← raw]
    exact fun _ => accepted
  · rw [reached]
    intro more g available
    have later := due_spaced delays more
    have before := early g available
    have tick : ((c.step b m p).history g).tick = (c.history g).tick ∨
        ((c.step b m p).history g).tick = p.now := history_tick_bound available
    omega

/-- A poll before the next element is due changes nothing. -/
theorem Console.Prompt.waited {last : Nat} {c : Console} {p : HostPoll}
    (prompt : c.Prompt b m chain gap last) (plays : c.reached < m.elements.length)
    (waits : ¬ m.due c.reached < p.now) : (c.step b m p).Prompt b m chain gap p.now := by
  have raw := prompt.raw_playing (p := p) plays
  have moved := (prompt.playing.read p.now).2
  have stays : m.reached c.reached p.now = c.reached := if_neg fun both => waits both.2
  have reached : (c.step b m p).reached = c.reached := stays
  rw [stays] at raw moved
  have kept (g : Gpio) : (c.step b m p).history g = c.history g := by
    apply history_unchanged
    rw [raw]
    exact prompt.recorded plays
  constructor
  · rw [reached]
    exact moved
  · rw [reached]
    exact fun _ => Nat.not_lt.mp waits
  · rw [reached]
    intro begun
    simp only [Console.step, plays, decide_true, if_true, stays, beq_self_eq_true,
      Bool.and_true, prompt.shown begun, Bool.or_true]
  · rw [reached]
    intro _ g available
    rw [kept]
    exact prompt.recorded plays g available
  · rw [reached]
    intro _ g available
    rw [kept]
    exact prompt.early plays g available

theorem Console.Prompt.ended {last : Nat} {c : Console} {p : HostPoll}
    (prompt : c.Prompt b m chain gap last) (ended : ¬ c.reached < m.elements.length) :
    (c.step b m p).Prompt b m chain gap p.now := by
  have stays : m.reached c.reached p.now = c.reached := if_neg fun both => ended both.1
  have reached : (c.step b m p).reached = c.reached := stays
  constructor
  · exact (prompt.playing.read p.now).2
  · rw [reached]
    exact fun again => absurd again ended
  · rw [reached]
    intro begun
    simp only [Console.step, ended, decide_false, Bool.false_eq_true, if_false]
    exact prompt.shown begun
  · rw [reached]
    exact fun again => absurd again ended
  · rw [reached]
    exact fun again => absurd again ended

theorem Console.prompt_step {last : Nat} {c : Console} {p : HostPoll}
    (delays : ∀ element ∈ m.elements.dropLast,
      kMsToCycCeil64 b.cyclesPerSec 5 + gap ≤ element.2)
    (soon : p.now ≤ last + gap) (prompt : c.Prompt b m chain gap last) :
    (c.step b m p).Prompt b m chain gap p.now := by
  by_cases plays : c.reached < m.elements.length
  · by_cases due : m.due c.reached < p.now
    · exact prompt.moved delays soon plays due
    · exact prompt.waited plays due
  · exact prompt.ended plays

/-- Polls that are never further apart than the delays can spare show every element. -/
theorem elements_shown {calls₀ : List QueueCall}
    (legal : Along Owned.step Owned.Legal Owned.boot calls₀)
    (member : chain ∈ (run Owned.step Owned.boot calls₀).owned) {p : NodeRef}
    (start : chain.head? = some p) (now : Nat) (history : ButtonHistory) (polls : List HostPoll)
    (regular : List.IsChain (fun t t' => t' ≤ t + gap) (now :: polls.map HostPoll.now)) (j : Nat) :
    let s := run Owned.step Owned.boot calls₀
    let m : Playback := ⟨contents s.queue chain, now, s.queue.input⟩
    s.queue.input = RawInputState.released →
    (∀ g, (history g).state = false ∧ (history g).tick + kMsToCycCeil64 b.cyclesPerSec 5 ≤ now) →
    (∀ element ∈ m.elements.dropLast, kMsToCycCeil64 b.cyclesPerSec 5 + gap ≤ element.2) →
    Along (Console.step b m) (fun c poll => c.Shows m poll j)
      ⟨s.step (.setActive (some p) true now), history, 0, false, false⟩ polls := by
  intro s m stale released delays
  have sound : s.Sound := run_invariant_of_legal Owned.sound_step Owned.sound_boot legal
  have initial : Console.Prompt b m chain gap now
      ⟨s.step (.setActive (some p) true now), history, 0, false, false⟩ := by
    constructor
    · exact playing_start sound member start true now
    · intro _
      exact Nat.le_refl _
    · intro begun
      cases begun
    · intro _ g _
      exact (released g).1.trans (congrFun stale g).symm
    · intro _ g _
      exact (released g).2
  have along (polls : List HostPoll) {last : Nat} {c : Console}
      (prompt : c.Prompt b m chain gap last)
      (regular : List.IsChain (fun t t' => t' ≤ t + gap) (last :: polls.map HostPoll.now)) :
      Along (Console.step b m) (fun c poll => c.Shows m poll j) c polls := by
    induction polls generalizing last c with
    | nil => trivial
    | cons poll polls ih =>
        rw [List.map_cons, List.isChain_cons_cons] at regular
        constructor
        · intro replaced
          apply prompt.shown
          rw [replaced.1]
          exact Nat.succ_pos j
        · exact ih (Console.prompt_step delays regular.1 prompt) regular.2
  exact along polls initial regular

end Regular

end PassingLink.Input
