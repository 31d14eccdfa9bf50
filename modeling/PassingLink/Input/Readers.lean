import PassingLink.Input.Playback

/-! The readers of the inputs besides the host: a queue that they read too, against the same
queue that only the host polls. -/
namespace PassingLink.Input
open Lib

/-- A call of `input_get_raw_state`, some ticks after the last one: by a poll of the host, or
by another reader such as `bt_input_read` or `cmd_input_modify`. -/
structure RawRead where
  host : Bool
  elapsed : Nat

/-- How many elements a read takes from the queue. -/
def advanced (q : Queue) (now : Nat) : Nat := if q.next ≠ none ∧ q.nextTick < now then 1 else 0

/-- Which element a read gets when so many have been taken before, numbered from one; none
when no queue plays. -/
def observed (q : Queue) (taken now : Nat) : Option Nat :=
  if q.next = none then none else some (taken + advanced q now)

/-- The queue with all its readers, and the same queue with the host alone: how many elements
have been taken from each, and how many the host had seen after its last poll. -/
structure Readers where
  clock : Nat
  shared : Owned
  alone : Owned
  taken : Nat
  takenAlone : Nat
  seen : Nat

namespace Readers
variable (m : Playback) (c : Readers) (r : RawRead)

def now : Nat := c.clock + r.elapsed

def step : Readers :=
  let now := c.now r
  let taken := c.taken + advanced c.shared.queue now
  { clock := now
    shared := c.shared.step (.getState now)
    alone := if r.host then c.alone.step (.getState now) else c.alone
    taken
    takenAlone := if r.host then c.takenAlone + advanced c.alone.queue now else c.takenAlone
    seen := if r.host then taken else c.seen }

/-- The poll gets the element that it gets without the other readers: the one that the host
saw last or the one after it, and nothing only once the host has seen all of them. -/
structure Undisturbed (n : Nat) : Prop where
  same : observed c.shared.queue c.taken (c.now r) = observed c.alone.queue c.takenAlone (c.now r)
  next : ∀ k, observed c.shared.queue c.taken (c.now r) = some k → k = c.seen ∨ k = c.seen + 1
  ended : observed c.shared.queue c.taken (c.now r) = none → c.seen = n

/-- Since the host's last poll the other readers took nothing, or one element that is not the
last one, and the next one is not due yet. -/
def Spared : Prop :=
  c.taken = c.seen ∨
    c.taken = c.seen + 1 ∧ c.shared.queue.next ≠ none ∧ c.now r ≤ c.shared.queue.nextTick

/-- The numbers stand for the states that the reads return. -/
structure Returns : Prop where
  shared : (inputQueueGetState c.shared.queue (c.now r)).1 =
    (observed c.shared.queue c.taken (c.now r)).map m.value
  alone : (inputQueueGetState c.alone.queue (c.now r)).1 =
    (observed c.alone.queue c.takenAlone (c.now r)).map m.value

end Readers

section Counts
variable {m : Playback} {chain : List NodeRef} {k : Nat} {s : Owned}

theorem Playing.next_none_iff (playing : Playing m chain k s) :
    s.queue.next = none ↔ ¬ k < m.elements.length := by
  rw [playing.next]
  split
  · rename_i before
    have inside : k < chain.length := by
      rw [playing.length before]
      exact before
    rw [List.getElem?_eq_getElem inside]
    exact iff_of_false (fun ends => by cases ends) (fun ended => ended before)
  · rename_i ended
    exact iff_of_true rfl ended

theorem Playing.advanced (playing : Playing m chain k s) (now : Nat) :
    k + advanced s.queue now = m.reached k now := by
  have active := playing.next_none_iff
  unfold Input.advanced Playback.reached
  by_cases before : k < m.elements.length
  · rw [playing.nextTick before]
    have more : s.queue.next ≠ none := fun ends => active.mp ends before
    by_cases due : m.due k < now
    · rw [if_pos ⟨more, due⟩, if_pos ⟨before, due⟩]
    · rw [if_neg fun both => due both.2, if_neg fun both => due both.2]
      rfl
  · rw [if_neg fun both => both.1 (active.mpr before), if_neg fun both => before both.1]
    rfl

theorem Playing.observed (playing : Playing m chain k s) (now : Nat) :
    observed s.queue k now = if k < m.elements.length then some (m.reached k now) else none := by
  unfold Input.observed
  rw [playing.advanced now]
  by_cases before : k < m.elements.length
  · rw [if_pos before, if_neg fun ends => playing.next_none_iff.mp ends before]
  · rw [if_neg before, if_pos (playing.next_none_iff.mpr before)]

theorem Playing.returns (playing : Playing m chain k s) (now : Nat) :
    (inputQueueGetState s.queue now).1 = (Input.observed s.queue k now).map m.value := by
  rw [(playing.read now).1, playing.observed now, Playback.read]
  split
  · rfl
  · rfl

end Counts

section Steps
variable {m : Playback} {chain : List NodeRef} {c : Readers} {r : RawRead}

/-- Both queues play the chain. -/
structure Readers.Both (m : Playback) (chain : List NodeRef) (c : Readers) : Prop where
  shared : Playing m chain c.taken c.shared
  alone : Playing m chain c.takenAlone c.alone

/-- The host has seen what it sees alone, and the readers only took what was due. -/
structure Readers.Ahead (m : Playback) (chain : List NodeRef) (c : Readers) : Prop where
  both : c.Both m chain
  same : c.takenAlone = c.seen
  ahead : c.seen ≤ c.taken
  past : c.seen < c.taken → m.due c.seen < c.clock

theorem Readers.both_step (c : Readers) (r : RawRead) (both : c.Both m chain) :
    (c.step r).Both m chain := by
  constructor
  · simp only [Readers.step, both.shared.advanced]
    exact (both.shared.read _).2
  · cases host : r.host with
    | false =>
        simp only [Readers.step, host, Bool.false_eq_true, if_false]
        exact both.alone
    | true =>
        simp only [Readers.step, host, if_true, both.alone.advanced]
        exact (both.alone.read _).2

/-- A host that misses nothing has nobody ahead of it, or one reader by an element that has
not run out. -/
theorem Readers.spared_of_undisturbed (ahead : c.Ahead m chain)
    (undisturbed : c.Undisturbed r m.elements.length) : c.Spared r := by
  obtain ⟨both, same, ahead, past⟩ := ahead
  have shared := both.shared.observed (c.now r)
  have alone := both.alone.observed (c.now r)
  rw [same] at alone
  have later : c.clock ≤ c.now r := Nat.le_add_right _ _
  have observed := undisturbed.same
  rw [same, shared, alone] at observed
  by_cases nothing : c.taken = c.seen
  · exact Or.inl nothing
  · have fewer : c.seen < m.elements.length := by
      have bound := both.shared.bound
      omega
    have due := past (Nat.lt_of_le_of_ne ahead (Ne.symm nothing))
    have moves : m.reached c.seen (c.now r) = c.seen + 1 :=
      if_pos ⟨fewer, Nat.lt_of_lt_of_le due later⟩
    rw [if_pos fewer, moves] at observed
    by_cases before : c.taken < m.elements.length
    · rw [if_pos before] at observed
      have reached := Option.some.inj observed
      have grows := m.le_reached c.taken (c.now r)
      have one : c.taken = c.seen + 1 := by omega
      refine Or.inr ⟨one, ?_, ?_⟩
      · intro ended
        exact both.shared.next_none_iff.mp ended before
      · rw [both.shared.nextTick before]
        apply Nat.not_lt.mp
        intro again
        have moves' : m.reached c.taken (c.now r) = c.taken + 1 := if_pos ⟨before, again⟩
        omega
    · rw [if_neg before] at observed
      cases observed

theorem Readers.undisturbed_level (ahead : c.Ahead m chain) (nothing : c.taken = c.seen) :
    c.Undisturbed r m.elements.length := by
  obtain ⟨both, same, -, -⟩ := ahead
  have shared := both.shared.observed (c.now r)
  have alone := both.alone.observed (c.now r)
  rw [same] at alone
  rw [nothing] at shared
  constructor
  · rw [nothing, same, shared, alone]
  · intro k got
    rw [nothing, shared] at got
    split at got
    · have reached := Option.some.inj got
      unfold Playback.reached at reached
      split at reached
      · exact Or.inr reached.symm
      · exact Or.inl reached.symm
    · cases got
  · intro got
    rw [nothing, shared] at got
    have bound := nothing ▸ both.shared.bound
    split at got
    · cases got
    · omega

theorem Readers.undisturbed_waiting (ahead : c.Ahead m chain) (one : c.taken = c.seen + 1)
    (active : c.shared.queue.next ≠ none) (waiting : c.now r ≤ c.shared.queue.nextTick) :
    c.Undisturbed r m.elements.length := by
  obtain ⟨both, same, -, past⟩ := ahead
  have shared := both.shared.observed (c.now r)
  have alone := both.alone.observed (c.now r)
  rw [same] at alone
  have later : c.clock ≤ c.now r := Nat.le_add_right _ _
  have before : c.taken < m.elements.length := by
    by_contra ended
    exact active (both.shared.next_none_iff.mpr ended)
  rw [both.shared.nextTick before] at waiting
  have due := past (by omega)
  have stays : m.reached c.taken (c.now r) = c.taken :=
    if_neg fun both => Nat.not_lt.mpr waiting both.2
  have moves : m.reached c.seen (c.now r) = c.seen + 1 :=
    if_pos ⟨by omega, Nat.lt_of_lt_of_le due later⟩
  have fewer : c.seen < m.elements.length := by omega
  rw [if_pos before, stays, one] at shared
  rw [if_pos fewer, moves] at alone
  constructor
  · rw [same, alone, one, shared]
  · intro k got
    rw [one, shared] at got
    exact Or.inr (Option.some.inj got).symm
  · intro got
    rw [one, shared] at got
    cases got

theorem Readers.undisturbed_iff (ahead : c.Ahead m chain) :
    c.Undisturbed r m.elements.length ↔ c.Spared r := by
  constructor
  · exact Readers.spared_of_undisturbed ahead
  · intro spared
    rcases spared with nothing | ⟨one, active, waiting⟩
    · exact Readers.undisturbed_level ahead nothing
    · exact Readers.undisturbed_waiting ahead one active waiting

theorem Readers.ahead_step (c : Readers) (r : RawRead) (ahead : c.Ahead m chain)
    (undisturbed : r.host = true → c.Undisturbed r m.elements.length) :
    (c.step r).Ahead m chain := by
  have both := Readers.both_step c r ahead.both
  have later : c.clock ≤ c.now r := Nat.le_add_right _ _
  have taken : (c.step r).taken = m.reached c.taken (c.now r) :=
    ahead.both.shared.advanced (c.now r)
  cases host : r.host with
  | false =>
      have kept : (c.step r).takenAlone = c.takenAlone ∧ (c.step r).seen = c.seen := by
        simp only [Readers.step, host, Bool.false_eq_true, if_false, and_self]
      have grows := m.le_reached c.taken (c.now r)
      refine ⟨both, ?_, ?_, ?_⟩
      · rw [kept.1, kept.2]
        exact ahead.same
      · rw [kept.2, taken]
        exact Nat.le_trans ahead.ahead grows
      · rw [kept.2, taken]
        intro more
        change m.due c.seen < c.now r
        by_cases before : c.seen < c.taken
        · exact Nat.lt_of_lt_of_le (ahead.past before) later
        · have nothing : c.taken = c.seen := Nat.le_antisymm (Nat.not_lt.mp before) ahead.ahead
          rw [nothing] at more
          unfold Playback.reached at more
          split at more
          · rename_i due
            exact due.2
          · exact absurd more (Nat.lt_irrefl _)
  | true =>
      have seen : (c.step r).seen = (c.step r).taken := by
        simp only [Readers.step, host, if_true]
      have takenAlone : (c.step r).takenAlone = m.reached c.takenAlone (c.now r) := by
        simp only [Readers.step, host, if_true]
        exact ahead.both.alone.advanced (c.now r)
      have same : m.reached c.takenAlone (c.now r) = m.reached c.taken (c.now r) := by
        have observed := (undisturbed host).same
        rw [ahead.both.shared.observed, ahead.both.alone.observed] at observed
        split at observed
        · split at observed
          · exact (Option.some.inj observed).symm
          · cases observed
        · rename_i ended
          split at observed
          · cases observed
          · rename_i overAlone
            have bound := ahead.both.shared.bound
            have boundAlone := ahead.both.alone.bound
            rw [Playback.reached, Playback.reached, if_neg fun both => overAlone both.1,
              if_neg fun both => ended both.1]
            omega
      refine ⟨both, ?_, ?_, ?_⟩
      · rw [seen, takenAlone, taken, same]
      · rw [seen]
      · rw [seen]
        intro more
        exact absurd more (Nat.lt_irrefl _)

end Steps

/-- The polls of the host see every element of an activated chain, in order, as they do
without the other readers, exactly if between two polls the readers take nothing, or one
element before the last whose successor is not due by the later poll. -/
theorem readers_spared_iff (calls₀ : List QueueCall)
    (legal : Along Owned.step Owned.Legal Owned.boot calls₀) (chain : List NodeRef)
    (member : chain ∈ (run Owned.step Owned.boot calls₀).owned) (p : NodeRef)
    (start : chain.head? = some p) (consume : Bool) (now : Nat) (reads : List RawRead) :
    let s := run Owned.step Owned.boot calls₀
    let m : Playback := ⟨contents s.queue chain, now, s.queue.input⟩
    let active := s.step (.setActive (some p) consume now)
    let c : Readers := ⟨now, active, active, 0, 0, 0⟩
    Along Readers.step (fun c r => c.Returns m r) c reads ∧
      (Along Readers.step (fun c r => r.host = true → c.Undisturbed r chain.length) c reads ↔
        Along Readers.step (fun c r => r.host = true → c.Spared r) c reads) := by
  intro s m active c
  have sound : s.Sound := run_invariant_of_legal Owned.sound_step Owned.sound_boot legal
  have playing : Playing m chain 0 active := playing_start sound member start consume now
  have both : c.Both m chain := ⟨playing, playing⟩
  have length : chain.length = m.elements.length := List.length_map _ |>.symm
  constructor
  · apply along_of_invariant Readers.both_step _ both
    intro c r both
    exact ⟨both.shared.returns _, both.alone.returns _⟩
  · rw [length]
    have ahead : c.Ahead m chain := by
      refine ⟨both, rfl, Nat.le_refl _, ?_⟩
      intro more
      exact absurd more (Nat.lt_irrefl _)
    apply along_congr_of_kept _ Readers.ahead_step ahead
    intro c r ahead
    exact forall_congr' fun _ => Readers.undisturbed_iff ahead

/-- `cmd_input_home`'s chain: home for 33333 us, then released for as long. -/
def homeCalls : List QueueCall :=
  [.alloc, .append 0, .fill 0 pressHome 1093, .fill 1 RawInputState.released 1093]

theorem homeCalls_legal : Along Owned.step Owned.Legal Owned.boot homeCalls := by
  refine ⟨⟨trivial, trivial⟩, ⟨⟨[0], ?_, rfl⟩, trivial⟩, ⟨⟨[0, 1], ?_, ?_⟩, trivial⟩,
    ⟨⟨[0, 1], ?_, ?_⟩, trivial⟩, trivial⟩
  all_goals decide

/-- The other reader comes when the release is due, before the poll that would have seen it. -/
def readBetween : List RawRead := [⟨true, 1⟩, ⟨true, 1080⟩, ⟨false, 15⟩, ⟨true, 18⟩]

theorem home_spared_iff :
    let s := run Owned.step Owned.boot homeCalls
    let m : Playback := ⟨contents s.queue [0, 1], 0, s.queue.input⟩
    let active := s.step (.setActive (some 0) true 0)
    let c : Readers := ⟨0, active, active, 0, 0, 0⟩
    Along Readers.step (fun c r => c.Returns m r) c readBetween ∧
      (Along Readers.step (fun c r => r.host = true → c.Undisturbed r 2) c readBetween ↔
        Along Readers.step (fun c r => r.host = true → c.Spared r) c readBetween) :=
  readers_spared_iff homeCalls homeCalls_legal [0, 1] (by decide) 0 rfl true 0 readBetween

theorem home_release_taken :
    ¬ ∀ (calls₀ : List QueueCall), Along Owned.step Owned.Legal Owned.boot calls₀ →
      ∀ chain p, chain ∈ (run Owned.step Owned.boot calls₀).owned → chain.head? = some p →
      ∀ consume now reads,
      let active := (run Owned.step Owned.boot calls₀).step (.setActive (some p) consume now)
      Along Readers.step (fun c r => r.host = true → c.Undisturbed r chain.length)
        ⟨now, active, active, 0, 0, 0⟩ reads := by
  intro all
  have along := all homeCalls homeCalls_legal [0, 1] 0 (by decide) rfl true 0 readBetween
  have lost := (along.2.2.2.1 rfl).ended (by decide)
  exact absurd lost (by decide)

end PassingLink.Input
