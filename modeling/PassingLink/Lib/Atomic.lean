import Mathlib.Data.List.ReduceOption
import PassingLink.Lib.Runs

/-! Programs over atomic operations on a shared state. One definition of a
program serves two readings: run alone to its end, or advanced by one operation
at a time between the operations of other programs. -/
namespace PassingLink.Lib

variable {Op : Type} {Res : Op → Type} {α β σ : Type}

/-- A program: finished with a result, or an operation and what follows its answer. -/
inductive Prog (Op : Type) (Res : Op → Type) (α : Type) : Type
  | ret (a : α)
  | op (o : Op) (next : Res o → Prog Op Res α)

namespace Prog

def bind : Prog Op Res α → (α → Prog Op Res β) → Prog Op Res β
  | .ret a, f => f a
  | .op o next, f => .op o fun r => (next r).bind f

instance : Monad (Prog Op Res) where
  pure := .ret
  bind := .bind

@[simp] theorem pure_eq (a : α) : (pure a : Prog Op Res α) = .ret a := rfl

@[simp] theorem ret_bind (a : α) (f : α → Prog Op Res β) : (Prog.ret a >>= f) = f a := rfl

@[simp] theorem op_bind (o : Op) (next : Res o → Prog Op Res α) (f : α → Prog Op Res β) :
    (Prog.op o next >>= f) = .op o fun r => next r >>= f := rfl

variable (exec : (o : Op) → σ → Res o × σ)

def advance : Prog Op Res α × σ → Prog Op Res α × σ
  | (.ret a, s) => (.ret a, s)
  | (.op o next, s) => (next (exec o s).1, (exec o s).2)

/-- Perform all operations that are left, with nothing in between. -/
def finish : Prog Op Res α → σ → α × σ
  | .ret a, s => (a, s)
  | .op o next, s => (next (exec o s).1).finish (exec o s).2

@[simp] theorem finish_ret (a : α) (s : σ) : (.ret a : Prog Op Res α).finish exec s = (a, s) := rfl

@[simp] theorem finish_op (o : Op) (next : Res o → Prog Op Res α) (s : σ) :
    (Prog.op o next).finish exec s = (next (exec o s).1).finish exec (exec o s).2 := rfl

theorem finish_bind (p : Prog Op Res α) (f : α → Prog Op Res β) (s : σ) :
    (p >>= f).finish exec s = (f (p.finish exec s).1).finish exec (p.finish exec s).2 := by
  induction p generalizing s with
  | ret a => rfl
  | op o next ih =>
      rw [op_bind, finish_op, finish_op]
      exact ih (exec o s).1 (exec o s).2

/-- A system in which an event advances the program does, after enough of these events and
nothing else, what `finish` says. -/
theorem run_finishes {τ ε : Type*} {step : τ → ε → τ} {e : ε} (embed : Prog Op Res α → σ → τ)
    (steps : ∀ o next s, step (embed (.op o next) s) e = embed (next (exec o s).1) (exec o s).2)
    (p : Prog Op Res α) (s : σ) :
    ∃ n, run step (embed p s) (List.replicate n e) =
      embed (.ret (p.finish exec s).1) (p.finish exec s).2 := by
  induction p generalizing s with
  | ret a => exact ⟨0, rfl⟩
  | op o next ih =>
      obtain ⟨n, reached⟩ := ih (exec o s).1 (exec o s).2
      exact ⟨n + 1, by rw [List.replicate_succ, run_cons, steps]; exact reached⟩

/-! ### A program beside the rest of the system -/

section Interleaved
variable {ε : Type*} (other : σ → ε → σ)

/-- The next operation of the program, or a move of the rest. -/
def interleave : Prog Op Res α × σ → Option ε → Prog Op Res α × σ
  | c, none => advance exec c
  | (p, s), some e => (p, other s e)

/-- Up to the last operation of the program nothing else can move. -/
def Held : Prog Op Res α → σ → Prop
  | .ret _, _ => True
  | .op o next, s => (∀ e, other s e = s) ∧ Held (next (exec o s).1) (exec o s).2

def Atomic : Prog Op Res α → σ → Prop
  | .ret _, _ => True
  | .op o next, s => (∃ a, next (exec o s).1 = .ret a) ∨ Held exec other (.op o next) s

/-- Whatever the answers, so many operations are enough. -/
def Within : Nat → Prog Op Res α → Prop
  | _, .ret _ => True
  | 0, .op _ _ => False
  | n + 1, .op _ next => ∀ r, Within n (next r)

/-- Whatever the answers, a result of which `P` holds. -/
def Always (P : α → Prop) : Prog Op Res α → Prop
  | .ret a => P a
  | .op _ next => ∀ r, Always P (next r)

variable {exec other}

section Always
variable {P : α → Prop}

theorem always_true (p : Prog Op Res α) : Always (fun _ => True) p := by
  induction p with
  | ret a => trivial
  | op o next ih => exact ih

theorem always_bind {Q : β → Prop} {p : Prog Op Res α} {f : α → Prog Op Res β}
    (first : Always P p) (second : ∀ a, P a → Always Q (f a)) : Always Q (p >>= f) := by
  induction p with
  | ret a => exact second a first
  | op o next ih => exact fun r => ih r (first r)

theorem always_interleave {p : Prog Op Res α} (always : Always P p) {s : σ}
    {es : List (Option ε)} {a : α}
    (finished : (run (interleave exec other) (p, s) es).1 = .ret a) : P a := by
  induction es generalizing p s with
  | nil =>
      obtain rfl : p = .ret a := finished
      exact always
  | cons e es ih =>
      cases e with
      | some e => exact ih always finished
      | none =>
          cases p with
          | ret a' => exact ih (p := .ret a') always finished
          | op o next => exact ih (always (exec o s).1) finished

end Always

theorem held_op {o : Op} {next : Res o → Prog Op Res α} {s : σ} :
    Held exec other (.op o next) s ↔
      (∀ e, other s e = s) ∧ Held exec other (next (exec o s).1) (exec o s).2 := Iff.rfl

/-- What is done with the result of a program is no operation of its own. -/
theorem held_map (f : α → β) {p : Prog Op Res α} {s : σ} :
    Held exec other (p >>= fun a => .ret (f a)) s ↔ Held exec other p s := by
  induction p generalizing s with
  | ret a => exact Iff.rfl
  | op o next ih => exact and_congr_right fun _ => ih _

theorem atomic_map (f : α → β) {p : Prog Op Res α} {s : σ} :
    Atomic exec other (p >>= fun a => .ret (f a)) s ↔ Atomic exec other p s := by
  cases p with
  | ret a => exact Iff.rfl
  | op o next =>
      refine or_congr ?_ (held_map f (p := .op o next))
      change (∃ b, (next (exec o s).1 >>= fun a => Prog.ret (f a)) = .ret b) ↔
        ∃ a, next (exec o s).1 = .ret a
      cases next (exec o s).1 with
      | ret a => exact iff_of_true ⟨f a, rfl⟩ ⟨a, rfl⟩
      | op o' next' =>
          refine iff_of_false ?_ ?_
          · rintro ⟨b, is⟩
            cases is
          · rintro ⟨a, is⟩
            cases is

theorem within_map (f : α → β) {n : Nat} {p : Prog Op Res α} :
    Within n (p >>= fun a => .ret (f a)) ↔ Within n p := by
  induction p generalizing n with
  | ret a => cases n <;> exact Iff.rfl
  | op o next ih =>
      cases n with
      | zero => exact Iff.rfl
      | succ n => exact forall_congr' fun r => ih r

theorem run_interleave_ret (a : α) (s : σ) (es : List (Option ε)) :
    run (interleave exec other) (.ret a, s) es = (.ret a, run other s es.reduceOption) := by
  induction es generalizing s with
  | nil => rfl
  | cons e es ih =>
      cases e with
      | none =>
          rw [List.reduceOption_cons_of_none]
          exact ih s
      | some e =>
          rw [List.reduceOption_cons_of_some]
          exact ih (other s e)

theorem within_returns {n : Nat} {p : Prog Op Res α} (within : Within n p) {es : List (Option ε)}
    (enough : n ≤ es.countP Option.isNone) (s : σ) :
    ∃ a, (run (interleave exec other) (p, s) es).1 = .ret a := by
  induction es generalizing n p s with
  | nil =>
      obtain rfl : n = 0 := Nat.le_zero.mp enough
      cases p with
      | ret a => exact ⟨a, rfl⟩
      | op o next => exact absurd within id
  | cons e es ih =>
      cases e with
      | some e => exact ih within enough (other s e)
      | none =>
          cases p with
          | ret a => exact ⟨a, congrArg Prod.fst (run_interleave_ret a s _)⟩
          | op o next =>
              cases n with
              | zero => exact absurd within id
              | succ n =>
                  rw [List.countP_cons_of_pos rfl] at enough
                  exact ih (within (exec o s).1) (Nat.le_of_succ_le_succ enough) (exec o s).2

/-- A program that holds the rest of the system finishes as if it had been alone. -/
theorem held_linearizes {p : Prog Op Res α} {s : σ} (held : Held exec other p s)
    {es : List (Option ε)} {a : α}
    (finished : (run (interleave exec other) (p, s) es).1 = .ret a) :
    ∃ before after, es.reduceOption = before ++ after ∧ run other s before = s ∧
      run (interleave exec other) (p, s) es =
        (.ret (p.finish exec s).1, run other (p.finish exec s).2 after) := by
  induction es generalizing p s with
  | nil =>
      rw [run_nil] at finished
      obtain rfl : p = .ret a := finished
      exact ⟨[], [], rfl, rfl, rfl⟩
  | cons e es ih =>
      cases p with
      | ret a' => exact ⟨[], _, rfl, rfl, run_interleave_ret a' s _⟩
      | op o next =>
          cases e with
          | none =>
              obtain ⟨before, after, split, -, reached⟩ := ih held.2 finished
              exact ⟨before, after, split, run_still held.1 before, reached⟩
          | some e =>
              have stays : interleave exec other (.op o next, s) (some e) = (.op o next, s) := by
                rw [interleave, held.1 e]
              rw [run_cons, stays] at finished ⊢
              obtain ⟨before, after, split, -, reached⟩ := ih held finished
              refine ⟨e :: before, after, ?_, run_still held.1 _, reached⟩
              rw [List.reduceOption_cons_of_some, split, List.cons_append]

/-- If the program is atomic wherever it may start, then whatever the rest does in the
meantime, the program takes effect at one point between two moves of the rest. -/
theorem atomic_linearizes {p : Prog Op Res α} {s : σ}
    (atomic : ∀ before, Atomic exec other p (run other s before))
    {es : List (Option ε)} {a : α}
    (finished : (run (interleave exec other) (p, s) es).1 = .ret a) :
    ∃ before after, es.reduceOption = before ++ after ∧
      run (interleave exec other) (p, s) es =
        (.ret (p.finish exec (run other s before)).1,
          run other (p.finish exec (run other s before)).2 after) := by
  induction es generalizing s with
  | nil =>
      rw [run_nil] at finished
      obtain rfl : p = .ret a := finished
      exact ⟨[], [], rfl, rfl⟩
  | cons e es ih =>
      cases e with
      | some e =>
          obtain ⟨before, after, split, reached⟩ := ih (fun es => atomic (e :: es)) finished
          refine ⟨e :: before, after, ?_, reached⟩
          rw [List.reduceOption_cons_of_some, split, List.cons_append]
      | none =>
          cases p with
          | ret a' => exact ⟨[], _, rfl, run_interleave_ret a' s _⟩
          | op o next =>
              rcases atomic [] with ⟨a', last⟩ | held
              · refine ⟨[], es.reduceOption, rfl, ?_⟩
                have step : interleave exec other (.op o next, s) none = (.ret a', (exec o s).2) := by
                  rw [← last]
                  rfl
                have whole : (Prog.op o next).finish exec s = (a', (exec o s).2) := by
                  rw [finish_op]
                  exact congrArg (finish exec · (exec o s).2) last
                rw [run_cons, step, run_interleave_ret, run_nil, whole]
              · obtain ⟨before, after, split, same, reached⟩ := held_linearizes held finished
                refine ⟨before, after, split, ?_⟩
                rw [show run other s before = s from same]
                exact reached

end Interleaved

end Prog
end PassingLink.Lib
