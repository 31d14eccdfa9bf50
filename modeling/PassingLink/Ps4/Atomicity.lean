import PassingLink.Ps4.History

/-! A callback beside the signing work item: whatever the work item does meanwhile, the
callback takes effect at one point between two of its operations. -/
namespace PassingLink.Ps4
open Lib Auth

variable {env : Env}

/-! ### The machine as a program beside the work item -/

/-- A worker event, on what it can touch. -/
def workStep (env : Env) (c : Shared × Auth Unit) (result : MbedResult) : Shared × Auth Unit :=
  match c.2 with
  | .ret _ => if c.1.workPending then ({ c.1 with workPending := false }, signNonce env) else c
  | .op _ _ => (Prog.advance (exec env result) (c.2, c.1)).swap

def callbackExec (env : Env) (o : Op) (c : Shared × Auth Unit) : o.Res × Shared × Auth Unit :=
  ((exec env .success o c.1).1, (exec env .success o c.1).2, c.2)

/-- A move while a callback is served: of the callback itself, or of the work item. -/
def Event.ofMove : Option MbedResult → Event
  | none => .usb
  | some result => .worker result

def Machine.ofCall (request : Request) (c : Auth Reply × Shared × Auth Unit) : Machine :=
  ⟨c.2.1, request, c.1, c.2.2⟩

section Moves
variable (request : Request) (c : Auth Reply × Shared × Auth Unit)

theorem step_move (move : Option MbedResult) :
    (Machine.ofCall request c).step env (.ofMove move) =
      Machine.ofCall request (Prog.interleave (callbackExec env) (workStep env) c move) := by
  obtain ⟨usb, shared, worker⟩ := c
  cases move with
  | none => cases usb <;> rfl
  | some result =>
      cases worker with
      | op o next => rfl
      | ret u =>
          obtain ⟨authState, nonce, nonceSignature, workPending, panicked⟩ := shared
          cases workPending <;> rfl

theorem run_moves (moves : List (Option MbedResult)) :
    run (Machine.step env) (Machine.ofCall request c) (moves.map .ofMove) =
      Machine.ofCall request
        (run (Prog.interleave (callbackExec env) (workStep env)) c moves) :=
  (run_map (Machine.ofCall request) (fun c move => (step_move request c move).symm) c moves).symm

end Moves

theorem run_work (request : Request) (usb : Auth Reply) (c : Shared × Auth Unit)
    (results : List MbedResult) :
    run (Machine.step env) (Machine.ofCall request (usb, c)) (results.map .worker) =
      Machine.ofCall request (usb, run (workStep env) c results) := by
  have work (c : Shared × Auth Unit) (result : MbedResult) :
      Machine.ofCall request (usb, workStep env c result) =
        (Machine.ofCall request (usb, c)).step env (.worker result) :=
    (step_move request (usb, c) (some result)).symm
  exact (run_map (fun c => Machine.ofCall request (usb, c)) work c results).symm

theorem finish_callback {α : Type} (p : Auth α) (c : Shared × Auth Unit) :
    p.finish (callbackExec env) c =
      ((p.finish (exec env .success) c.1).1, (p.finish (exec env .success) c.1).2, c.2) := by
  induction p generalizing c with
  | ret a => rfl
  | op o next ih => exact ih _ _

/-! ### No callback can be interrupted -/

section Held
variable {s : Shared}

theorem workStep_idle (pending : s.workPending = false) (result : MbedResult) :
    workStep env (s, .ret ()) result = (s, .ret ()) := by
  simp only [workStep, pending, Bool.false_eq_true, if_false]

theorem held_submit (pending : s.workPending = false) (noncePart : UInt8) :
    Prog.Held (callbackExec env) (workStep env) (setReply (submitIfDone noncePart))
      (s, .ret ()) := by
  unfold submitIfDone
  split
  · exact ⟨workStep_idle pending, trivial⟩
  · trivial

theorem held_commit (pending : s.workPending = false) (state : AuthState)
    (nonceId noncePart : UInt8) :
    Prog.Held (callbackExec env) (workStep env) (setReply (commitNonce state nonceId noncePart))
      (s, .ret ()) := by
  simp only [setReply, commitNonce, cas_bind, Prog.op_bind, Prog.held_op, callbackExec, exec]
  refine ⟨workStep_idle pending, ?_⟩
  by_cases same : s.authState.toInt = state.toInt
  · simp only [if_pos same, if_true]
    exact @held_submit env { s with authState := nonceAccepted state nonceId noncePart } pending
      noncePart
  · simp only [if_neg same, Bool.false_eq_true, if_false]
    trivial

theorem held_store (pending : s.workPending = false) (state : AuthState)
    (nonceId noncePart : UInt8) (data : List UInt8) :
    Prog.Held (callbackExec env) (workStep env)
      (setReply (storeNonce state nonceId noncePart data)) (s, .ret ()) := by
  refine ⟨workStep_idle pending, ?_⟩
  exact @held_commit env { s with nonce := overwrite s.nonce (noncePart.toNat * 56) data } pending
    state nonceId noncePart

section Chunk
variable (state currentState : AuthState) (buf chunk : List UInt8)

theorem held_advance (pending : s.workPending = false) :
    Prog.Held (callbackExec env) (workStep env)
      (chunkResult env state buf (advanceChunk currentState chunk)) (s, .ret ()) := by
  simp only [chunkResult, getReply, advanceChunk, cas_bind, Prog.op_bind, Prog.held_op,
    callbackExec, exec]
  refine ⟨workStep_idle pending, ?_⟩
  by_cases same : s.authState.toInt = currentState.toInt
  · simp only [if_pos same, if_true]
    trivial
  · simp only [if_neg same, Bool.false_eq_true, if_false]
    trivial

theorem held_copy (pending : s.workPending = false) :
    Prog.Held (callbackExec env) (workStep env)
      (chunkResult env state buf (copyChunk env currentState 56)) (s, .ret ()) := by
  simp only [chunkResult, getReply, copyChunk, readSignature_bind, Prog.op_bind, Prog.held_op,
    callbackExec, exec]
  refine ⟨workStep_idle pending, ?_⟩
  split
  · exact ⟨workStep_idle pending, trivial⟩
  · exact held_advance state currentState buf _ pending

theorem held_get (pending : s.workPending = false) :
    Prog.Held (callbackExec env) (workStep env)
      (chunkResult env state buf (getNextSignatureChunk env 56)) (s, .ret ()) := by
  have step : chunkResult env state buf (getNextSignatureChunk env 56) =
      .op .load fun currentState => chunkResult env state buf
        (if currentState.type ≠ .sendingSignature then return none
        else copyChunk env currentState 56) := rfl
  rw [step, Prog.held_op]
  refine ⟨workStep_idle pending, ?_⟩
  split
  · trivial
  · exact held_copy state _ buf pending

end Chunk

end Held

/-- A callback that goes on after its first look at the state has found a phase in which
the work item sleeps. -/
theorem program_atomic {m : Machine} (inv : Inv env m) (request : Request) :
    Prog.Atomic (callbackExec env) (workStep env) (request.program env) (m.shared, m.worker) := by
  have ready := request_ready env request
  generalize request.program env = program at ready
  cases ready with
  | answered => trivial
  | @loads next loads =>
      have loaded := loads m.shared
      change (∃ reply, next m.shared.authState = .ret reply) ∨
        (∀ result, workStep env (m.shared, m.worker) result = (m.shared, m.worker)) ∧
          Prog.Held _ _ (next m.shared.authState) (m.shared, m.worker)
      generalize next m.shared.authState = rest at loaded
      cases loaded with
      | @answered reply => exact Or.inl ⟨reply, rfl⟩
      | admitted type =>
          obtain ⟨pending, -, asleep⟩ := inv.phase.of_receiving type
          rw [asleep]
          exact Or.inr ⟨workStep_idle pending, held_store pending _ _ _ _⟩
      | ready type =>
          obtain ⟨pending, -, asleep, -⟩ := inv.phase.of_sending type
          rw [asleep]
          exact Or.inr ⟨workStep_idle pending, held_get _ _ pending⟩

/-- A callback that has been served at once. -/
def Machine.serve (env : Env) (m : Machine) (request : Request) : Machine where
  shared := ((request.program env).finish (exec env .success) m.shared).2
  request := request
  usb := .ret ((request.program env).finish (exec env .success) m.shared).1
  worker := m.worker

/-- A program that is atomic in every reachable state takes effect somewhere between the moves
of the work item. -/
theorem program_linearizes {α : Type} {p : Auth α}
    (atomic : ∀ m, Inv env m →
      Prog.Atomic (callbackExec env) (workStep env) p (m.shared, m.worker))
    (es : List Event) {last : Reply} (idle : (run (Machine.step env) Machine.boot es).usb = .ret last)
    {moves : List (Option MbedResult)} {a : α}
    (returned : (run (Prog.interleave (callbackExec env) (workStep env))
      (p, (run (Machine.step env) Machine.boot es).shared,
        (run (Machine.step env) Machine.boot es).worker) moves).1 = .ret a) :
    ∃ before after m, moves.reduceOption = before ++ after ∧
      m = run (Machine.step env) Machine.boot (es ++ before.map .worker) ∧
      run (Prog.interleave (callbackExec env) (workStep env))
          (p, (run (Machine.step env) Machine.boot es).shared,
            (run (Machine.step env) Machine.boot es).worker) moves =
        (.ret (p.finish (exec env .success) m.shared).1,
          run (workStep env) ((p.finish (exec env .success) m.shared).2, m.worker) after) := by
  have inv := run_inv (boot_inv env) es
  have reached := @run_append _ _ (Machine.step env) Machine.boot es
  generalize run (Machine.step env) Machine.boot es = m at idle returned inv reached
  obtain ⟨shared, old, usb, worker⟩ := m
  obtain rfl : usb = .ret last := idle
  have waiting (before : List MbedResult) :
      run (Machine.step env) ⟨shared, old, .ret last, worker⟩ (before.map .worker) =
        Machine.ofCall old (.ret last, run (workStep env) (shared, worker) before) :=
    run_work old (.ret last) (shared, worker) before
  obtain ⟨before, after, split, result⟩ := Prog.atomic_linearizes (by
    intro before
    have inv' := run_inv inv (before.map .worker)
    rw [waiting] at inv'
    exact atomic _ inv') returned
  refine ⟨before, after, _, split, rfl, ?_⟩
  rw [reached, waiting, result, finish_callback]
  rfl

/-- In every interleaving with the work item, a callback that returns is as good as one that
is served at once, somewhere between the moves of the work item. -/
theorem callback_linearizes (es : List Event) {last : Reply}
    (idle : (run (Machine.step env) Machine.boot es).usb = .ret last) (request : Request)
    (moves : List (Option MbedResult)) {reply : Reply}
    (returned : (run (Machine.step env)
      ((run (Machine.step env) Machine.boot es).step env (.request request))
      (moves.map .ofMove)).usb = .ret reply) :
    ∃ before after, moves.reduceOption = before ++ after ∧
      run (Machine.step env)
          ((run (Machine.step env) Machine.boot es).step env (.request request))
          (moves.map .ofMove) =
        run (Machine.step env)
          ((run (Machine.step env) Machine.boot (es ++ before.map .worker)).serve env request)
          (after.map .worker) := by
  have start : (run (Machine.step env) Machine.boot es).step env (.request request) =
      Machine.ofCall request (request.program env, (run (Machine.step env) Machine.boot es).shared,
        (run (Machine.step env) Machine.boot es).worker) := by
    simp only [Machine.step, idle]
    rfl
  rw [start, run_moves] at returned ⊢
  obtain ⟨before, after, m, split, rfl, result⟩ := program_linearizes
    (fun m inv => program_atomic inv request) es idle returned
  refine ⟨before, after, split, ?_⟩
  rw [result, ← run_work]
  rfl

end PassingLink.Ps4
