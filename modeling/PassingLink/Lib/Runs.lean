import Mathlib.Data.List.Basic
import Mathlib.Data.List.Induction

/-! Finite runs of a deterministic machine driven by a list of events, with the
invariant rule and the rules for properties of every step of a run. -/
namespace PassingLink.Lib

variable {σ : Type*} {ε : Type*} {step : σ → ε → σ}

/-- The state after a finite list of events, oldest event first. -/
def run (step : σ → ε → σ) (s : σ) (events : List ε) : σ := events.foldl step s

@[simp] theorem run_nil (s : σ) : run step s [] = s := rfl

@[simp] theorem run_cons (s : σ) (e : ε) (es : List ε) :
    run step s (e :: es) = run step (step s e) es := rfl

theorem run_append (s : σ) (xs ys : List ε) :
    run step s (xs ++ ys) = run step (run step s xs) ys := by
  simp only [run, List.foldl_append]

/-- Runs over events that differ only in what no step reads end in the same state. -/
theorem run_eq_of_forall₂ {Same : ε → ε → Prop}
    (blind : ∀ s e e', Same e e' → step s e = step s e') {es es' : List ε}
    (same : List.Forall₂ Same es es') (s : σ) : run step s es = run step s es' := by
  induction same generalizing s with
  | nil => rfl
  | cons first _ ih => rw [run_cons, run_cons, blind s _ _ first, ih]

theorem run_still {s : σ} (still : ∀ e, step s e = s) (es : List ε) : run step s es = s :=
  List.foldl_fixed' still es

section Projection
variable {τ : Type*} (state : τ → σ)

/-- What a run does to a part of the state that needs no other part is a run on that part. -/
theorem run_forget {recorded : τ → ε → τ}
    (forget : ∀ t e, state (recorded t e) = step (state t) e) (t : τ) (es : List ε) :
    state (run recorded t es) = run step (state t) es :=
  (List.foldl_hom state fun t e => (forget t e).symm).symm

/-- The same where the events are some of those that the part has. -/
theorem run_map {δ : Type*} {recorded : τ → δ → τ} {event : δ → ε}
    (forget : ∀ t d, state (recorded t d) = step (state t) (event d)) (t : τ) (ds : List δ) :
    state (run recorded t ds) = run step (state t) (ds.map event) := by
  have mapped : run step (state t) (ds.map event) =
      run (fun s d => step s (event d)) (state t) ds := List.foldl_map
  rw [mapped]
  exact run_forget state forget t ds

end Projection

theorem run_invariant {Inv : σ → Prop} (preserved : ∀ s e, Inv s → Inv (step s e))
    {s : σ} (initial : Inv s) (es : List ε) : Inv (run step s es) := by
  induction es generalizing s with
  | nil => exact initial
  | cons e es ih => exact ih (preserved s e initial)

section Reading
variable {ρ : Type*} {Inv : σ → Prop} {read : σ → ρ} {writes : ε → Bool} {value : ε → ρ}

/-- What is read after a run was written by the last event that writes it at all. -/
theorem read_run (preserved : ∀ s e, Inv s → Inv (step s e))
    (reads : ∀ s e, Inv s → read (step s e) = if writes e then value e else read s)
    {s : σ} (initial : Inv s) (es : List ε) :
    read (run step s es) = ((es.reverse.find? writes).map value).getD (read s) := by
  induction es using List.reverseRecOn with
  | nil => rfl
  | append_singleton es e ih =>
      have reached := run_invariant (fun s e => preserved s e) initial es
      rw [run_append, run_cons, run_nil, reads _ e reached, ih, List.reverse_append,
        List.reverse_singleton, List.singleton_append, List.find?_cons]
      cases writes e with
      | true => rfl
      | false => rfl

/-- The events that do not write it can be left out. -/
theorem read_run_filter (preserved : ∀ s e, Inv s → Inv (step s e))
    (reads : ∀ s e, Inv s → read (step s e) = if writes e then value e else read s)
    {kept : ε → Bool} (needed : ∀ e, writes e = true → kept e = true)
    {s : σ} (initial : Inv s) (es : List ε) :
    read (run step s es) = read (run step s (es.filter kept)) := by
  have same : (fun e => decide (kept e = true ∧ writes e = true)) = writes := by
    funext e
    rw [Bool.decide_and, Bool.decide_eq_true, Bool.decide_eq_true]
    cases written : writes e with
    | true => rw [needed e written, Bool.and_self]
    | false => rw [Bool.and_false]
  rw [read_run preserved reads initial, read_run preserved reads initial, ← List.filter_reverse,
    List.find?_filter, same]

end Reading

/-- `P` holds of the state before, and the event of, every step of the run. -/
def Along (step : σ → ε → σ) (P : σ → ε → Prop) : σ → List ε → Prop
  | _, [] => True
  | s, e :: es => P s e ∧ Along step P (step s e) es

theorem along_mono {P Q : σ → ε → Prop} (implies : ∀ s e, P s e → Q s e) {s : σ} {es : List ε}
    (along : Along step P s es) : Along step Q s es := by
  induction es generalizing s with
  | nil => trivial
  | cons e es ih => exact ⟨implies s e along.1, ih along.2⟩

theorem along_and {P Q : σ → ε → Prop} {s : σ} {es : List ε} (first : Along step P s es)
    (second : Along step Q s es) : Along step (fun s e => P s e ∧ Q s e) s es := by
  induction es generalizing s with
  | nil => trivial
  | cons e es ih => exact ⟨⟨first.1, second.1⟩, ih first.2 second.2⟩

theorem along_of_forall {P : σ → ε → Prop} {es : List ε} (all : ∀ e ∈ es, ∀ s, P s e) (s : σ) :
    Along step P s es := by
  induction es generalizing s with
  | nil => trivial
  | cons e es ih =>
      refine ⟨all e List.mem_cons_self s, ih (fun e' member => ?_) (step s e)⟩
      exact all e' (List.mem_cons_of_mem e member)

theorem along_append {P : σ → ε → Prop} (s : σ) (xs ys : List ε) :
    Along step P s (xs ++ ys) ↔ Along step P s xs ∧ Along step P (run step s xs) ys := by
  induction xs generalizing s with
  | nil => simp only [List.nil_append, Along, run_nil, true_and]
  | cons e xs ih => simp only [List.cons_append, Along, run_cons, ih, and_assoc]

theorem along_iff_split {P : σ → ε → Prop} (s : σ) (es : List ε) :
    Along step P s es ↔
      ∀ before e after, es = before ++ e :: after → P (run step s before) e := by
  constructor
  · rintro holds before e after rfl
    exact ((along_append s before (e :: after)).mp holds).2.1
  · intro holds
    induction es generalizing s with
    | nil => trivial
    | cons e es ih =>
        refine ⟨holds [] e es rfl, ih (step s e) ?_⟩
        intro before e' after same
        exact holds (e :: before) e' after (by rw [same, List.cons_append])

/-- A property of single steps that follows from an invariant holds along every run. -/
theorem along_of_invariant {P : σ → ε → Prop} {Inv : σ → Prop}
    (preserved : ∀ s e, Inv s → Inv (step s e)) (implies : ∀ s e, Inv s → P s e)
    {s : σ} (initial : Inv s) (es : List ε) : Along step P s es := by
  induction es generalizing s with
  | nil => trivial
  | cons e es ih => exact ⟨implies s e initial, ih (preserved s e initial)⟩

/-- The same along every legal run, the legality being available at each step. -/
theorem along_of_legal {Legal P : σ → ε → Prop} {Inv : σ → Prop}
    (preserved : ∀ s e, Legal s e → Inv s → Inv (step s e))
    (implies : ∀ s e, Legal s e → Inv s → P s e)
    {s : σ} (initial : Inv s) {es : List ε} (legal : Along step Legal s es) :
    Along step P s es := by
  induction es generalizing s with
  | nil => trivial
  | cons e es ih =>
      exact ⟨implies s e legal.1 initial, ih (preserved s e legal.1 initial) legal.2⟩

/-- Two step properties that agree wherever the invariant holds agree along every run. -/
theorem along_congr {P Q : σ → ε → Prop} {Inv : σ → Prop}
    (preserved : ∀ s e, Inv s → Inv (step s e))
    (agree : ∀ s e, Inv s → (P s e ↔ Q s e))
    {s : σ} (initial : Inv s) (es : List ε) :
    Along step P s es ↔ Along step Q s es := by
  induction es generalizing s with
  | nil => exact Iff.rfl
  | cons e es ih => exact and_congr (agree s e initial) (ih (preserved s e initial))

/-- Adding a record that no step reads changes no property of the steps. -/
theorem along_record {τ : Type*} {recorded : τ → ε → τ} {state : τ → σ} {P : σ → ε → Prop}
    (forget : ∀ t e, state (recorded t e) = step (state t) e) (t : τ) (es : List ε) :
    Along step P (state t) es ↔ Along recorded (fun t e => P (state t) e) t es := by
  induction es generalizing t with
  | nil => exact Iff.rfl
  | cons e es ih =>
      have later := ih (recorded t e)
      rw [forget] at later
      exact and_congr Iff.rfl later

/-- A property of the steps that keeps up an invariant may be replaced, in every legal run, by
another one that agrees with it under the invariant. -/
theorem along_congr_of_legal {Legal P Q : σ → ε → Prop} {Inv : σ → Prop}
    (agree : ∀ s e, Legal s e → Inv s → (P s e ↔ Q s e))
    (preserved : ∀ s e, Legal s e → Inv s → P s e → Inv (step s e))
    {s : σ} (initial : Inv s) {es : List ε} (legal : Along step Legal s es) :
    Along step P s es ↔ Along step Q s es := by
  induction es generalizing s with
  | nil => exact Iff.rfl
  | cons e es ih =>
      have same := agree s e legal.1 initial
      constructor
      · intro along
        have kept := preserved s e legal.1 initial along.1
        exact ⟨same.mp along.1, (ih kept legal.2).mp along.2⟩
      · intro along
        have first := same.mpr along.1
        have kept := preserved s e legal.1 initial first
        exact ⟨first, (ih kept legal.2).mpr along.2⟩

theorem along_congr_of_kept {P Q : σ → ε → Prop} {Inv : σ → Prop}
    (agree : ∀ s e, Inv s → (P s e ↔ Q s e)) (preserved : ∀ s e, Inv s → P s e → Inv (step s e))
    {s : σ} (initial : Inv s) (es : List ε) :
    Along step P s es ↔ Along step Q s es := by
  have legal : Along step (fun _ _ => True) s es := along_of_forall (fun _ _ _ => trivial) s
  exact along_congr_of_legal (fun s e _ => agree s e) (fun s e _ => preserved s e) initial legal

/-- What a projection of the state shows is at every point of a run the fold of the events
exactly if every step of the run does to the projection what the fold does. -/
theorem along_follows {τ : Type*} (proj : σ → τ) (law : τ → ε → τ) (s : σ) (es : List ε) :
    (∀ before, before <+: es → proj (run step s before) = run law (proj s) before) ↔
      Along step (fun s e => proj (step s e) = law (proj s) e) s es := by
  induction es generalizing s with
  | nil =>
      apply iff_of_true _ trivial
      intro before inside
      rw [List.prefix_nil.mp inside]
      rfl
  | cons e es ih =>
      constructor
      · intro follows
        have first : proj (step s e) = law (proj s) e :=
          follows [e] (List.prefix_cons_inj e |>.mpr (List.nil_prefix))
        refine ⟨first, (ih (step s e)).mp ?_⟩
        intro before inside
        have later := follows (e :: before) ((List.prefix_cons_inj e).mpr inside)
        rw [run_cons, run_cons, ← first] at later
        exact later
      · intro along before inside
        cases before with
        | nil => rfl
        | cons e' before =>
            obtain ⟨same, rest⟩ := List.cons_prefix_cons.mp inside
            subst same
            rw [run_cons, run_cons, ← along.1]
            exact (ih (step s e')).mpr along.2 before rest

/-- What legal steps keep up holds at the end of every legal run. -/
theorem run_invariant_of_legal {Legal : σ → ε → Prop} {Inv : σ → Prop}
    (preserved : ∀ s e, Legal s e → Inv s → Inv (step s e))
    {s : σ} (initial : Inv s) {es : List ε} (legal : Along step Legal s es) :
    Inv (run step s es) := by
  induction es generalizing s with
  | nil => exact initial
  | cons e es ih => exact ih (preserved s e legal.1 initial) legal.2

end PassingLink.Lib
