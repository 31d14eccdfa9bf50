import PassingLink.Lib.Runs

/-! A buffer that callers edit and a worker sends on, element by element. A caller marks the buffer
before it edits it and submits the item of the worker afterwards; the worker takes the mark away
before it reads the buffer. The worker may run between any two steps of the callers, also between
a mark and an edit that it was made for. -/
namespace PassingLink.Lib

/-- How far the worker is with its item. -/
inductive Worker (α : Type*) where
  | idle
  | started
  /-- The mark was there. -/
  | marked
  | sending (sent : List α)

structure Refresh (β α : Type*) where
  buffer : β
  dirty : Bool
  /-- The item is in the queue of the worker. -/
  pending : Bool
  worker : Worker α
  /-- The last transfer, unless it broke off. -/
  shown : Option (List α)
  /-- There were marks or edits after which nothing has been submitted. -/
  owing : Bool
  /-- Since the worker last took a mark away, an edit has found none. -/
  missed : Bool

inductive RefreshEvent (δ : Type*) where
  | mark
  | edit (d : δ)
  | submit
  /-- The worker runs for one step; `taken` is what the far side makes of a transfer. -/
  | work (taken : Bool)

namespace Refresh
variable {β δ α : Type*} (bytes : β → List α) (apply : β → δ → β)

def send (s : Refresh β α) (sent : List α) (taken : Bool) : Refresh β α :=
  if taken then
    match (bytes s.buffer)[sent.length]? with
    | some a => { s with worker := .sending (sent ++ [a]) }
    | none => { s with worker := .idle, shown := some sent }
  else { s with worker := .idle, shown := none }

def work (s : Refresh β α) (taken : Bool) : Refresh β α :=
  match s.worker with
  | .idle => if s.pending then { s with pending := false, worker := .started } else s
  | .started => { s with worker := if s.dirty then .marked else .idle }
  | .marked => { s with dirty := false, worker := .sending [], missed := false }
  | .sending sent => s.send bytes sent taken

def step (s : Refresh β α) : RefreshEvent δ → Refresh β α
  | .mark => { s with dirty := true, owing := true }
  | .edit d =>
      { s with buffer := apply s.buffer d, owing := true, missed := s.missed || !s.dirty }
  | .submit => { s with pending := true, owing := false }
  | .work taken => s.work bytes taken

/-- Nothing is on its way to the far side. -/
structure Resting (s : Refresh β α) : Prop where
  worker : s.worker = .idle
  pending : s.pending = false
  owing : s.owing = false

/-- What is neither marked nor missed has been sent, or is what the worker is sending. -/
structure Fresh (s : Refresh β α) : Prop where
  marked : s.worker = .marked → s.dirty = true
  /-- Whoever marks also submits, and the worker looks at the mark after that. -/
  awaited : s.dirty = true →
    s.pending = true ∨ s.owing = true ∨ s.worker = .started ∨ s.worker = .marked
  shown : s.dirty = false → s.missed = false → s.worker = .idle ∨ s.worker = .started →
    ∀ sent, s.shown = some sent → sent = bytes s.buffer
  short : ∀ sent, s.worker = .sending sent → sent.length ≤ (bytes s.buffer).length
  sent : s.dirty = false → s.missed = false → ∀ sent, s.worker = .sending sent →
    sent = (bytes s.buffer).take sent.length

variable {bytes} {apply} {s : Refresh β α}

theorem Fresh.work_idle (fresh : Fresh bytes s) (idle : s.worker = .idle) (taken : Bool) :
    Fresh bytes (s.work bytes taken) := by
  simp only [work, idle]
  split
  · exact
      { marked := fun marked => nomatch marked
        awaited := fun _ => .inr (.inr (.inl rfl))
        shown := fun clean kept _ => fresh.shown clean kept (.inl idle)
        short := fun _ sending => nomatch sending
        sent := fun _ _ _ sending => nomatch sending }
  · exact fresh

theorem Fresh.work_started (fresh : Fresh bytes s) (started : s.worker = .started) (taken : Bool) :
    Fresh bytes (s.work bytes taken) := by
  simp only [work, started]
  cases dirty : s.dirty with
  | true =>
      exact
        { marked := fun _ => rfl
          awaited := fun _ => .inr (.inr (.inr rfl))
          shown := fun clean => nomatch clean
          short := fun _ sending => nomatch sending
          sent := fun clean => nomatch clean }
  | false =>
      exact
        { marked := fun marked => nomatch marked
          awaited := fun dirty => nomatch dirty
          shown := fun _ kept _ => fresh.shown dirty kept (.inr started)
          short := fun _ sending => nomatch sending
          sent := fun _ _ _ sending => nomatch sending }

theorem Fresh.work_marked (marked : s.worker = .marked) (taken : Bool) :
    Fresh bytes (s.work bytes taken) := by
  simp only [work, marked]
  exact
    { marked := fun marked => nomatch marked
      awaited := fun dirty => nomatch dirty
      shown := fun _ _ away => away.elim (fun idle => nomatch idle) fun started => nomatch started
      short := fun sent sending => by
        cases sending
        exact Nat.zero_le _
      sent := fun _ _ sent sending => by
        cases sending
        rfl }

theorem Fresh.work_sending (fresh : Fresh bytes s) {sent : List α}
    (sending : s.worker = .sending sent) (taken : Bool) : Fresh bytes (s.work bytes taken) := by
  have still {worker : Worker α} (dirty : s.dirty = true) :
      s.pending = true ∨ s.owing = true ∨ worker = .started ∨ worker = .marked := by
    rcases fresh.awaited dirty with pending | owing | started | marked
    · exact .inl pending
    · exact .inr (.inl owing)
    · exact nomatch sending.symm.trans started
    · exact nomatch sending.symm.trans marked
  have whole := fresh.short sent sending
  have gone := fresh.sent
  simp only [work, sending, send]
  cases taken with
  | false =>
      exact
        { marked := fun marked => nomatch marked
          awaited := still
          shown := fun _ _ _ _ shown => nomatch shown
          short := fun _ sending => nomatch sending
          sent := fun _ _ _ sending => nomatch sending }
  | true =>
      simp only [if_true]
      cases next : (bytes s.buffer)[sent.length]? with
      | some a =>
          obtain ⟨inside, is⟩ := List.getElem?_eq_some_iff.mp next
          exact
            { marked := fun marked => nomatch marked
              awaited := still
              shown := fun _ _ away =>
                away.elim (fun idle => nomatch idle) fun started => nomatch started
              short := fun _ more => by
                cases more
                rw [List.length_append]
                exact inside
              sent := fun clean kept _ more => by
                cases more
                rw [List.length_append, List.length_singleton, List.take_add_one, next,
                  ← gone clean kept sent sending]
                rfl }
      | none =>
          have all : sent.length = (bytes s.buffer).length :=
            Nat.le_antisymm whole (List.getElem?_eq_none_iff.mp next)
          exact
            { marked := fun marked => nomatch marked
              awaited := still
              shown := fun clean kept _ last shown => by
                cases shown
                rw [gone clean kept sent sending, all, List.take_length]
              short := fun _ sending => nomatch sending
              sent := fun _ _ _ sending => nomatch sending }

theorem Fresh.work (fresh : Fresh bytes s) (taken : Bool) : Fresh bytes (s.work bytes taken) := by
  cases worker : s.worker with
  | idle => exact fresh.work_idle worker taken
  | started => exact fresh.work_started worker taken
  | marked => exact work_marked worker taken
  | sending sent => exact fresh.work_sending worker taken

variable (longer : ∀ b d, (bytes b).length ≤ (bytes (apply b d)).length)
include longer

omit longer

/-- At rest the far side has the buffer as it is now, unless its last transfer broke off or an edit
was missed. -/
theorem Fresh.at_rest (fresh : Fresh bytes s) (resting : Resting s) :
    s.dirty = false ∧
      (s.missed = false → ∀ sent, s.shown = some sent → sent = bytes s.buffer) := by
  have clean : s.dirty = false := by
    apply Bool.eq_false_iff.mpr
    intro dirty
    rcases fresh.awaited dirty with pending | owing | started | marked
    · exact nomatch resting.pending.symm.trans pending
    · exact nomatch resting.owing.symm.trans owing
    · exact nomatch resting.worker.symm.trans started
    · exact nomatch resting.worker.symm.trans marked
  exact ⟨clean, fun kept => fresh.shown clean kept (.inl resting.worker)⟩

/-- The worker takes a mark away before the edit that it was made for: the far side keeps the
buffer as it was. -/
example :
    let s := run (step id (fun _ d => [d] : List Nat → Nat → List Nat))
      ⟨[0], false, false, .idle, none, false, false⟩
      [.mark, .edit 1, .submit, .mark, .work true, .work true, .work true, .work true, .edit 2,
        .submit, .work true, .work true, .work true]
    s.pending = false ∧ s.missed = true ∧ s.shown = some [1] ∧ s.buffer = [2] := by decide

/-- A bound for the steps to the end of the item, for a buffer of `n` elements. -/
def left (n : Nat) : Worker α → Nat
  | .idle => 0
  | .started => n + 3
  | .marked => n + 2
  | .sending sent => n + 1 - sent.length

/-- A bound for the steps that the worker still has to do if no more is submitted. -/
def due (bytes : β → List α) (s : Refresh β α) : Nat :=
  (if s.pending then (bytes s.buffer).length + 4 else 0) + left (bytes s.buffer).length s.worker

/-- The far side has the buffer, or will get it. -/
def Promised (bytes : β → List α) (s : Refresh β α) : Prop :=
  s.dirty = true ∨ s.missed = false ∧
    ((∃ sent, s.worker = .sending sent) ∨ s.shown = some (bytes s.buffer))

/-- Only what broke off or was missed, and was not marked again, is not promised. -/
theorem Fresh.promised (fresh : Fresh bytes s)
    (kept : s.dirty = true ∨ s.missed = false ∧ s.shown ≠ none) : s.Promised bytes := by
  cases dirty : s.dirty with
  | true => exact .inl dirty
  | false =>
      obtain ⟨kept, shown⟩ := kept.resolve_left (Bool.eq_false_iff.mp dirty)
      obtain ⟨sent, is⟩ := Option.ne_none_iff_exists'.mp shown
      have now (away : s.worker = .idle ∨ s.worker = .started) : s.Promised bytes :=
        .inr ⟨kept, .inr (is.trans (congrArg some (fresh.shown dirty kept away sent is)))⟩
      cases worker : s.worker with
      | idle => exact now (.inl worker)
      | started => exact now (.inr worker)
      | marked => exact nomatch dirty.symm.trans (fresh.marked worker)
      | sending sent => exact .inr ⟨kept, .inl ⟨sent, worker⟩⟩

/-- What a step of the worker keeps while nothing breaks off. -/
structure Worked (bytes : β → List α) (s s' : Refresh β α) : Prop where
  buffer : s'.buffer = s.buffer
  owing : s'.owing = s.owing
  due : s'.due bytes ≤ s.due bytes - 1
  promised : s.Promised bytes → s'.Promised bytes

theorem worked_idle (idle : s.worker = .idle) : Worked bytes s (s.work bytes true) := by
  simp only [work, idle]
  cases pending : s.pending with
  | true =>
      simp only [if_true]
      constructor
      · rfl
      · rfl
      · simp only [due, left, idle, pending, if_true, Bool.false_eq_true, if_false]
        omega
      · rintro (dirty | ⟨kept, ⟨sent, sending⟩ | shown⟩)
        · exact .inl dirty
        · exact nomatch idle.symm.trans sending
        · exact .inr ⟨kept, .inr shown⟩
  | false =>
      simp only [Bool.false_eq_true, if_false]
      refine ⟨rfl, rfl, ?_, id⟩
      simp only [due, left, idle, pending, Bool.false_eq_true, if_false]
      omega

theorem worked_started (started : s.worker = .started) : Worked bytes s (s.work bytes true) := by
  simp only [work, started]
  refine ⟨rfl, rfl, ?_, ?_⟩
  · simp only [due, left, started]
    cases s.dirty with
    | true =>
        simp only [if_true]
        omega
    | false =>
        simp only [Bool.false_eq_true, if_false]
        omega
  · rintro (dirty | ⟨kept, ⟨sent, sending⟩ | shown⟩)
    · exact .inl dirty
    · exact nomatch started.symm.trans sending
    · exact .inr ⟨kept, .inr shown⟩

theorem worked_marked (marked : s.worker = .marked) : Worked bytes s (s.work bytes true) := by
  simp only [work, marked]
  refine ⟨rfl, rfl, ?_, ?_⟩
  · simp only [due, left, marked, List.length_nil]
    omega
  · exact fun _ => .inr ⟨rfl, .inl ⟨[], rfl⟩⟩

theorem worked_sending (fresh : Fresh bytes s) {sent : List α}
    (sending : s.worker = .sending sent) : Worked bytes s (s.work bytes true) := by
  have whole := fresh.short sent sending
  simp only [work, sending, send, if_true]
  cases next : (bytes s.buffer)[sent.length]? with
  | some a =>
      refine ⟨rfl, rfl, ?_, ?_⟩
      · simp only [due, left, sending, List.length_append, List.length_singleton]
        omega
      · rintro (dirty | ⟨kept, -⟩)
        · exact .inl dirty
        · exact .inr ⟨kept, .inl ⟨_, rfl⟩⟩
  | none =>
      have all : sent.length = (bytes s.buffer).length :=
        Nat.le_antisymm whole (List.getElem?_eq_none_iff.mp next)
      refine ⟨rfl, rfl, ?_, ?_⟩
      · simp only [due, left, sending]
        omega
      · rintro (dirty | ⟨kept, -⟩)
        · exact .inl dirty
        · cases dirty : s.dirty with
          | true => exact .inl rfl
          | false =>
              refine .inr ⟨kept, .inr (congrArg some ?_)⟩
              rw [fresh.sent dirty kept sent sending, all, List.take_length]

theorem worked (fresh : Fresh bytes s) : Worked bytes s (s.work bytes true) := by
  cases worker : s.worker with
  | idle => exact worked_idle worker
  | started => exact worked_started worker
  | marked => exact worked_marked worker
  | sending sent => exact worked_sending fresh worker

end Refresh

end PassingLink.Lib
