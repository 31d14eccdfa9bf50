import PassingLink.Input.Ownership

/-! What the queue hands out while it plays a chain that was activated with `consume`: the
element that has been reached is all that the storage, the play pointer and the tick keep. -/
namespace PassingLink.Input
open Lib

/-! ### Playing, without a storage -/

/-- An activation: the elements with their delays, the tick, and what `queue_input` was. -/
structure Playback where
  elements : List (RawInputState × Nat)
  start : Nat
  stale : RawInputState

namespace Playback
variable (m : Playback)

/-- The tick after which the element with this number may be reached. -/
def due (k : Nat) : Nat := m.start + ((m.elements.take k).map Prod.snd).sum

/-- `queue_input` when so many elements have been reached. -/
def value : Nat → RawInputState
  | 0 => m.stale
  | k + 1 => ((m.elements[k]?).map Prod.fst).getD m.stale

/-- How many elements have been reached after a read. -/
def reached (k now : Nat) : Nat :=
  if k < m.elements.length ∧ m.due k < now then k + 1 else k

def read (k now : Nat) : Option RawInputState :=
  if k < m.elements.length then some (m.value (m.reached k now)) else none

theorem le_reached (k now : Nat) : k ≤ m.reached k now := by
  unfold reached
  split
  · exact Nat.le_succ k
  · exact Nat.le_refl k

theorem due_succ {k : Nat} {element : RawInputState × Nat} (here : m.elements[k]? = some element) :
    m.due (k + 1) = m.due k + element.2 := by
  unfold due
  rw [List.take_add_one, here, Option.toList_some, List.map_append, List.sum_append,
    List.map_singleton, List.sum_singleton, Nat.add_assoc]

theorem value_succ {k : Nat} {element : RawInputState × Nat}
    (here : m.elements[k]? = some element) : m.value (k + 1) = element.1 := by
  simp only [value, here, Option.map_some, Option.getD_some]

end Playback

/-! ### The queue plays a chain -/

def contents (q : Queue) (chain : List NodeRef) : List (RawInputState × Nat) :=
  chain.map fun r => ((q.storage r).state, (q.storage r).delay)

/-- The queue has reached so many elements of the chain that it plays. -/
structure Playing (m : Playback) (chain : List NodeRef) (k : Nat) (s : Owned) : Prop where
  sound : s.Sound
  bound : k ≤ m.elements.length
  live : k < m.elements.length → chain ∈ s.live
  contents : k < m.elements.length → contents s.queue chain = m.elements
  next : s.queue.next = if k < m.elements.length then chain[k]? else none
  nextTick : k < m.elements.length → s.queue.nextTick = m.due k
  input : s.queue.input = m.value k

/-- What a call leaves as it is while a chain plays that the queue has been given. -/
structure Unmoved (s s' : Owned) : Prop where
  consumed : s'.consumed = s.consumed
  storage : ∀ r ∈ s.consumed, s'.queue.storage r = s.queue.storage r
  next : s'.queue.next = s.queue.next
  nextTick : s'.queue.nextTick = s.queue.nextTick
  input : s'.queue.input = s.queue.input

theorem Unmoved.refl (s : Owned) : Unmoved s s := ⟨rfl, fun _ _ => rfl, rfl, rfl, rfl⟩

theorem Unmoved.trans {s s' s'' : Owned} (first : Unmoved s s') (second : Unmoved s' s'') :
    Unmoved s s'' := by
  constructor
  · exact second.consumed.trans first.consumed
  · intro r inside
    rw [second.storage r (first.consumed.symm ▸ inside), first.storage r inside]
  · exact second.next.trans first.next
  · exact second.nextTick.trans first.nextTick
  · exact second.input.trans first.input

def QueueCall.Elsewhere : QueueCall → Prop
  | .setActive _ _ _ | .getState _ => False
  | _ => True

section Elsewhere
variable {s : Owned}

theorem unmoved_alloc (sound : s.Sound) : Unmoved s (s.step .alloc) := by
  rcases alloc_cases sound.hinted with ⟨full, -⟩ | ⟨i, taken, unused, -⟩
  · simp only [Owned.step, full]
    exact ⟨rfl, fun _ _ => rfl, rfl, rfl, rfl⟩
  · simp only [Owned.step, taken]
    refine ⟨rfl, ?_, rfl, rfl, rfl⟩
    intro r inside
    have other : r ≠ i := by
      intro same
      rw [same] at inside
      exact sound.link_unused unused s.consumed List.mem_cons_self inside
    simp only [Queue.taken, Queue.setNext, Function.update_of_ne other]

theorem unmoved_append (sound : s.Sound) {head : NodeRef} (owns : s.Owns (.append head)) :
    Unmoved s (s.step (.append head)) := by
  obtain ⟨chain, member, last⟩ := owns
  rcases alloc_cases sound.hinted with ⟨full, -⟩ | ⟨i, taken, unused, -⟩
  · simp only [Owned.step, Owned.append_eq, full]
    exact ⟨rfl, fun _ _ => rfl, rfl, rfl, rfl⟩
  · simp only [Owned.step, Owned.append_eq, taken]
    refine ⟨rfl, ?_, rfl, rfl, rfl⟩
    intro r inside
    have notTail : r ≠ i := by
      intro same
      rw [same] at inside
      exact sound.link_unused unused s.consumed List.mem_cons_self inside
    have notHead : r ≠ head := by
      intro same
      rw [same] at inside
      have disjoint := List.disjoint_of_nodup_append sound.distinct
      exact disjoint inside (List.mem_flatten.mpr ⟨chain, member, List.mem_of_getLast? last⟩)
    simp only [Queue.taken, Queue.setNext, Function.update_of_ne notTail,
      Function.update_of_ne notHead]

theorem unmoved_fill (sound : s.Sound) {i : NodeRef} {state : RawInputState} {delay : Nat}
    (owns : s.Owns (.fill i state delay)) : Unmoved s (s.step (.fill i state delay)) := by
  obtain ⟨chain, member, there⟩ := owns
  refine ⟨rfl, ?_, rfl, rfl, rfl⟩
  intro r inside
  have other : r ≠ i := by
    intro same
    rw [same] at inside
    have disjoint := List.disjoint_of_nodup_append sound.distinct
    exact disjoint inside (List.mem_flatten.mpr ⟨chain, member, there⟩)
  simp only [Owned.step, Queue.fill, Function.update_of_ne other]

theorem unmoved_free (sound : s.Sound) {p : Option NodeRef} (legal : s.Legal (.free p)) :
    Unmoved s (s.step (.free p)) := by
  cases p with
  | none => exact ⟨rfl, fun _ _ => rfl, rfl, rfl, rfl⟩
  | some p =>
      obtain ⟨⟨chain, member, start⟩, -⟩ := legal
      have live := List.mem_cons_of_mem s.consumed member
      have single := (List.nodup_flatten.mp sound.distinct).1 chain live
      have freed := freed_free (sound.linked chain live) single start
      obtain ⟨storageBitmap, storageLastAvail, same⟩ := freed.same
      simp only [Owned.step, same]
      exact ⟨rfl, fun _ _ => rfl, rfl, rfl, rfl⟩

theorem unmoved_elsewhere (sound : s.Sound) {call : QueueCall} (legal : s.Legal call)
    (elsewhere : call.Elsewhere) : Unmoved s (s.step call) := by
  cases call with
  | alloc => exact unmoved_alloc sound
  | append head => exact unmoved_append sound legal.1
  | fill r state delay => exact unmoved_fill sound legal.1
  | free p => exact unmoved_free sound legal
  | setActive | getState => exact elsewhere.elim

theorem Playing.unmoved {m : Playback} {chain : List NodeRef} {k : Nat} {s' : Owned}
    (playing : Playing m chain k s) (given : k < m.elements.length → s.consumed = chain)
    (sound : s'.Sound) (unmoved : Unmoved s s') : Playing m chain k s' := by
  constructor
  · exact sound
  · exact playing.bound
  · intro before
    rw [← given before, ← unmoved.consumed]
    exact List.mem_cons_self
  · intro before
    rw [← playing.contents before, ← given before]
    apply List.map_congr_left
    intro r inside
    rw [unmoved.storage r inside]
  · rw [unmoved.next]
    exact playing.next
  · rw [unmoved.nextTick]
    exact playing.nextTick
  · rw [unmoved.input]
    exact playing.input

theorem Playing.elsewhere {m : Playback} {chain : List NodeRef} {k : Nat}
    (playing : Playing m chain k s) (given : k < m.elements.length → s.consumed = chain)
    {call : QueueCall} (legal : s.Legal call) (elsewhere : call.Elsewhere) :
    Playing m chain k (s.step call) :=
  playing.unmoved given (Owned.sound_step s call legal playing.sound)
    (unmoved_elsewhere playing.sound legal elsewhere)

end Elsewhere

section Reads
variable {s : Owned} {m : Playback} {chain : List NodeRef} {k : Nat}

theorem Playing.length (playing : Playing m chain k s) (before : k < m.elements.length) :
    chain.length = m.elements.length := by
  rw [← playing.contents before, Input.contents, List.length_map]

/-- The node that is next, its element, and where it leads. -/
theorem Playing.node (playing : Playing m chain k s) (before : k < m.elements.length) :
    ∃ p element, s.queue.next = some p ∧ m.elements[k]? = some element ∧
      ((s.queue.storage p).state, (s.queue.storage p).delay) = element ∧
      s.queue.link p = chain[k + 1]? := by
  have contents := playing.contents before
  have length := playing.length before
  have inside : k < chain.length := by omega
  have here : chain[k]? = some chain[k] := List.getElem?_eq_getElem inside
  refine ⟨chain[k], _, ?_, ?_, rfl, ?_⟩
  · rw [playing.next, if_pos before]
    exact here
  · rw [← contents, Input.contents, List.getElem?_map, here, Option.map_some]
  · have linked := playing.sound.linked chain (playing.live before)
    rw [← List.take_append_drop k chain, List.drop_eq_getElem_cons inside] at linked
    rw [linked.next_of_split, List.head?_drop]

/-- With no element left, a read gets nothing and changes nothing. -/
theorem Playing.read_ended (playing : Playing m chain k s) (ended : ¬ k < m.elements.length)
    (now : Nat) :
    (inputQueueGetState s.queue now).1 = none ∧ Playing m chain k (s.step (.getState now)) := by
  have next := playing.next
  rw [if_neg ended] at next
  have idle := getState_idle next now
  have same : s.step (.getState now) = s := by
    simp only [Owned.step, idle, next, if_true]
    rw [← playing.sound.idle next]
  rw [idle, same]
  exact ⟨rfl, playing⟩

/-- Before the next element is due, a read gets the last one again. -/
theorem Playing.read_waits (playing : Playing m chain k s) (before : k < m.elements.length)
    {now : Nat} (early : ¬ m.due k < now) :
    (inputQueueGetState s.queue now).1 = some (m.value k) ∧
      Playing m chain k (s.step (.getState now)) := by
  obtain ⟨p, -, next, -⟩ := playing.node before
  rw [← playing.nextTick before] at early
  have waits := getState_waits next early
  have same : s.step (.getState now) = s := by
    simp only [Owned.step, waits, next, reduceCtorEq, if_false]
  rw [waits, same, playing.input]
  exact ⟨rfl, playing⟩

/-- An element with another one behind it is reached. -/
theorem Playing.read_next (playing : Playing m chain k s) (more : k + 1 < m.elements.length)
    {now : Nat} (due : m.due k < now) : Playing m chain (k + 1) (s.step (.getState now)) := by
  have before : k < m.elements.length := Nat.lt_of_succ_lt more
  obtain ⟨p, element, next, here, node, link⟩ := playing.node before
  have tick := playing.nextTick before
  have length := playing.length before
  have follows : chain[k + 1]? = some chain[k + 1] := List.getElem?_eq_getElem (by omega)
  have value : m.value (k + 1) = (s.queue.storage p).state := by
    rw [m.value_succ here, ← node]
  rw [follows] at link
  have goes : (s.queue.played p).next = some chain[k + 1] := link
  have moved := getState_due next (tick ▸ due)
  have same : s.step (.getState now) = { s with queue := s.queue.played p } := by
    simp only [Owned.step, moved, advance_next link, goes, reduceCtorEq, if_false]
  have sound := Owned.sound_getState playing.sound now
  rw [same] at sound ⊢
  refine ⟨sound, before, ?_, ?_, ?_, ?_, value.symm⟩
  · intro _
    exact playing.live before
  · intro _
    exact playing.contents before
  · rw [if_pos more, goes, follows]
  · intro _
    rw [m.due_succ here, ← node, ← tick]
    rfl

/-- The last element is reached, and the chain is given back. -/
theorem Playing.read_last (playing : Playing m chain k s) (before : k < m.elements.length)
    (last : ¬ k + 1 < m.elements.length) {now : Nat} (due : m.due k < now) :
    Playing m chain (k + 1) (s.step (.getState now)) := by
  obtain ⟨p, element, next, here, node, link⟩ := playing.node before
  have tick := playing.nextTick before
  have length := playing.length before
  have ended : chain[k + 1]? = none := List.getElem?_eq_none (by omega)
  have value : m.value (k + 1) = (s.queue.storage p).state := by
    rw [m.value_succ here, ← node]
  have moved := getState_due next (tick ▸ due)
  obtain ⟨gone, input⟩ := advance_unmoved s.queue p
  refine ⟨Owned.sound_getState playing.sound now, before, ?_, ?_, ?_, ?_, ?_⟩
  · intro again
    exact absurd again last
  · intro again
    exact absurd again last
  · simp only [Owned.step, moved, if_neg last]
    rw [gone, link, ended]
  · intro again
    exact absurd again last
  · simp only [Owned.step, moved]
    rw [input, value]

/-- A read hands out what the playback says, and leads to where it says. -/
theorem Playing.read (playing : Playing m chain k s) (now : Nat) :
    (inputQueueGetState s.queue now).1 = m.read k now ∧
      Playing m chain (m.reached k now) (s.step (.getState now)) := by
  by_cases before : k < m.elements.length
  · rw [Playback.read, if_pos before]
    by_cases due : m.due k < now
    · obtain ⟨p, element, next, here, node, -⟩ := playing.node before
      have moves : m.reached k now = k + 1 := if_pos ⟨before, due⟩
      rw [moves, m.value_succ here, ← node]
      constructor
      · rw [getState_due next (playing.nextTick before ▸ due)]
      · by_cases more : k + 1 < m.elements.length
        · exact playing.read_next more due
        · exact playing.read_last before more due
    · have stays : m.reached k now = k := if_neg fun both => due both.2
      rw [stays]
      exact playing.read_waits before due
  · have stays : m.reached k now = k := if_neg fun both => before both.1
    rw [Playback.read, if_neg before, stays]
    exact playing.read_ended before now

/-- A chain that has been handed over stays so until its last node is reached. -/
theorem Playing.read_consumed (playing : Playing m chain k s) (now : Nat)
    (before : m.reached k now < m.elements.length) :
    (s.step (.getState now)).consumed = s.consumed := by
  have next := (playing.read now).2.next
  have length := (playing.read now).2.length before
  rw [if_pos before, List.getElem?_eq_getElem (by omega)] at next
  have goes : (inputQueueGetState s.queue now).2.next ≠ none := by
    intro inactive
    rw [Owned.step, inactive] at next
    cases next
  exact if_neg goes

/-- Activating a chain starts its playback, whatever was playing before. -/
theorem playing_start (sound : s.Sound) (member : chain ∈ s.owned) {p : NodeRef}
    (start : chain.head? = some p) (consume : Bool) (now : Nat) :
    Playing ⟨contents s.queue chain, now, s.queue.input⟩ chain 0
      (s.step (.setActive (some p) consume now)) := by
  have owns : s.Owns (.setActive (some p) consume now) := ⟨chain, member, start⟩
  obtain ⟨-, -, -, -, found⟩ := others_split sound.owned_distinct member start
  obtain ⟨storageBitmap, storageLastAvail, same⟩ := sound.freed_consumed.same
  have filled : 0 < (contents s.queue chain).length := by
    rw [contents, List.length_map]
    apply List.length_pos_iff.mpr
    intro inactive
    rw [inactive] at start
    cases start
  constructor
  · exact Owned.sound_setActive sound owns
  · exact Nat.zero_le _
  · intro _
    cases consume with
    | true =>
        have given : (s.step (.setActive (some p) true now)).consumed = chain := found
        exact given ▸ List.mem_cons_self
    | false => exact List.mem_cons_of_mem _ member
  · intro _
    simp only [Owned.step, inputQueueSetActive, same]
    rfl
  · rw [if_pos filled, ← List.head?_eq_getElem?, start]
    rfl
  · intro _
    rfl
  · simp only [Owned.step, inputQueueSetActive, same]
    rfl

theorem consumed_start (sound : s.Sound) (member : chain ∈ s.owned) {p : NodeRef}
    (start : chain.head? = some p) (now : Nat) :
    (s.step (.setActive (some p) true now)).consumed = chain := by
  obtain ⟨-, -, -, -, found⟩ := others_split sound.owned_distinct member start
  exact found

end Reads

/-! ### The reads of a whole run -/

/-- The ticks at which the run reads the queue, with what it gets. -/
def reads (s : Owned) : List QueueCall → List (Nat × Option RawInputState)
  | [] => []
  | .getState now :: calls =>
      (now, (inputQueueGetState s.queue now).1) :: reads (s.step (.getState now)) calls
  | call :: calls => reads (s.step call) calls

/-- What may be read once so many elements have been reached: the one reached last again,
until the next one is due, then that one; and nothing after the last one. -/
inductive Played (m : Playback) : Nat → List (Nat × Option RawInputState) → Prop
  | done (k) : Played m k []
  | again {k now later} : k < m.elements.length → now ≤ m.due k →
      (∀ j, k = j + 1 → m.due j < now) → Played m k later →
      Played m k ((now, some (m.value k)) :: later)
  | next {k now later} : k < m.elements.length → m.due k < now → Played m (k + 1) later →
      Played m k ((now, some (m.value (k + 1))) :: later)
  | ended {now later} : Played m m.elements.length later →
      Played m m.elements.length ((now, none) :: later)

/-- The calls belong to callers that keep to the rules and activate nothing. -/
def Quiet (s : Owned) (call : QueueCall) : Prop :=
  s.Legal call ∧ (call.Elsewhere ∨ ∃ now, call = .getState now)

def readTicks : List QueueCall → List Nat
  | [] => []
  | .getState now :: calls => now :: readTicks calls
  | _ :: calls => readTicks calls

theorem played_reads {m : Playback} {chain : List NodeRef} {k last : Nat} {s : Owned}
    (playing : Playing m chain k s) (given : k < m.elements.length → s.consumed = chain)
    {calls : List QueueCall} (quiet : Along Owned.step Quiet s calls)
    (ordered : (last :: readTicks calls).Pairwise (· ≤ ·))
    (since : ∀ j, k = j + 1 → m.due j < last) : Played m k (reads s calls) := by
  induction calls generalizing k last s with
  | nil => exact .done k
  | cons call calls ih =>
      obtain ⟨⟨legal, kind⟩, later⟩ := quiet
      cases kind with
      | inl elsewhere =>
          have moved := playing.elsewhere given legal elsewhere
          have given' (before : k < m.elements.length) : (s.step call).consumed = chain :=
            (unmoved_elsewhere playing.sound legal elsewhere).consumed.trans (given before)
          cases call with
          | setActive | getState => exact elsewhere.elim
          | alloc | append | fill | free => exact ih moved given' later ordered since
      | inr reads =>
          obtain ⟨now, rfl⟩ := reads
          obtain ⟨result, moved⟩ := playing.read now
          have given' (before : m.reached k now < m.elements.length) :
              (s.step (.getState now)).consumed = chain := by
            rw [playing.read_consumed now before]
            exact given (Nat.lt_of_le_of_lt (m.le_reached k now) before)
          obtain ⟨first, rest⟩ := List.pairwise_cons.mp ordered
          have past : last ≤ now := first now List.mem_cons_self
          simp only [Input.reads]
          rw [result]
          by_cases before : k < m.elements.length
          · by_cases due : m.due k < now
            · have moves : m.reached k now = k + 1 := if_pos ⟨before, due⟩
              rw [Playback.read, if_pos before, moves]
              rw [moves] at moved given'
              apply Played.next before due
              apply ih moved given' later rest
              intro j same
              cases same
              exact due
            · have stays : m.reached k now = k := if_neg fun both => due both.2
              rw [Playback.read, if_pos before, stays]
              rw [stays] at moved given'
              have since' (j : Nat) (same : k = j + 1) : m.due j < now :=
                Nat.lt_of_lt_of_le (since j same) past
              exact .again before (Nat.not_lt.mp due) since' (ih moved given' later rest since')
          · have stays : m.reached k now = k := if_neg fun both => before both.1
            have ended : k = m.elements.length :=
              Nat.le_antisymm playing.bound (Nat.not_lt.mp before)
            rw [stays] at moved given'
            have since' (j : Nat) (same : k = j + 1) : m.due j < now :=
              Nat.lt_of_lt_of_le (since j same) past
            have tail := ih moved given' later rest since'
            rw [Playback.read, if_neg before]
            subst ended
            exact .ended tail

/-- From any state that the callers can reach, a chain that is handed over is played element
by element, each once its time has come and at least once, and then no more. -/
theorem queue_playback (calls₀ : List QueueCall)
    (legal : Along Owned.step Owned.Legal Owned.boot calls₀) (chain : List NodeRef)
    (member : chain ∈ (run Owned.step Owned.boot calls₀).owned) (p : NodeRef)
    (start : chain.head? = some p) (now : Nat) (calls : List QueueCall)
    (quiet : Along Owned.step Quiet
      ((run Owned.step Owned.boot calls₀).step (.setActive (some p) true now)) calls)
    (ordered : (readTicks calls).Pairwise (· ≤ ·)) :
    let s := run Owned.step Owned.boot calls₀
    Played ⟨contents s.queue chain, now, s.queue.input⟩ 0
      (reads (s.step (.setActive (some p) true now)) calls) := by
  have sound : (run Owned.step Owned.boot calls₀).Sound :=
    run_invariant_of_legal Owned.sound_step Owned.sound_boot legal
  have playing := playing_start sound member start true now
  have ordered' : (0 :: readTicks calls).Pairwise (· ≤ ·) :=
    List.pairwise_cons.mpr ⟨fun tick _ => Nat.zero_le tick, ordered⟩
  apply played_reads playing (fun _ => consumed_start sound member start now) quiet ordered'
  intro j same
  cases same

def pressHome : RawInputState := fun g => g = .buttonHome

/-- Home for 3 ticks and then released, read twice before it may start and again later. -/
theorem queue_playback_home :
    let s := run Owned.step Owned.boot
      [.alloc, .append 0, .fill 0 pressHome 3, .fill 1 RawInputState.released 3]
    let calls : List QueueCall :=
      [.getState 5, .getState 6, .alloc, .getState 6, .getState 9, .getState 10]
    Played ⟨contents s.queue [0, 1], 5, s.queue.input⟩ 0
        (reads (s.step (.setActive (some 0) true 5)) calls) ∧
      (reads (s.step (.setActive (some 0) true 5)) calls).map
          (fun read => read.2.map fun state => state .buttonHome) =
        [some false, some true, some true, some false, none] := by
  intro s calls
  have legal : Along Owned.step Owned.Legal Owned.boot
      [.alloc, .append 0, .fill 0 pressHome 3, .fill 1 RawInputState.released 3] := by
    refine ⟨⟨trivial, trivial⟩, ⟨⟨[0], ?_, rfl⟩, trivial⟩, ⟨⟨[0, 1], ?_, ?_⟩, trivial⟩,
      ⟨⟨[0, 1], ?_, ?_⟩, trivial⟩, trivial⟩
    all_goals decide
  have quiet : Along Owned.step Quiet (s.step (.setActive (some 0) true 5)) calls := by
    refine ⟨⟨⟨trivial, trivial⟩, Or.inr ⟨5, rfl⟩⟩, ⟨⟨trivial, trivial⟩, Or.inr ⟨6, rfl⟩⟩,
      ⟨⟨trivial, trivial⟩, Or.inl trivial⟩, ⟨⟨trivial, trivial⟩, Or.inr ⟨6, rfl⟩⟩,
      ⟨⟨trivial, trivial⟩, Or.inr ⟨9, rfl⟩⟩, ⟨⟨trivial, trivial⟩, Or.inr ⟨10, rfl⟩⟩, trivial⟩
  exact ⟨queue_playback _ legal [0, 1] (by decide) 0 rfl 5 calls quiet (by decide), by decide⟩

end PassingLink.Input
