import PassingLink.Lib.Runs

/-! Machines of which one does in a step what another one does in any number of steps. -/
namespace PassingLink.Lib

variable {σ τ ε δ : Type*} {step : σ → ε → σ} {other : τ → δ → τ} {part : σ → τ}

/-- Every step moves the part as some events of the other machine would. -/
def Refines (step : σ → ε → σ) (other : τ → δ → τ) (part : σ → τ) : Prop :=
  ∀ s e, ∃ ds, part (step s e) = run other (part s) ds

theorem Refines.run (refines : Refines step other part) (s : σ) (es : List ε) :
    ∃ ds, part (run step s es) = Lib.run other (part s) ds := by
  induction es generalizing s with
  | nil => exact ⟨[], rfl⟩
  | cons e es ih =>
      obtain ⟨first, moved⟩ := refines s e
      obtain ⟨rest, reached⟩ := ih (step s e)
      refine ⟨first ++ rest, ?_⟩
      rw [run_cons, reached, moved, run_append]

/-- What the other machine preserves is preserved of the part. -/
theorem Refines.preserves (refines : Refines step other part) {Inv : τ → Prop}
    (preserved : ∀ t d, Inv t → Inv (other t d)) (s : σ) (e : ε) (inv : Inv (part s)) :
    Inv (part (step s e)) := by
  obtain ⟨ds, moved⟩ := refines s e
  rw [moved]
  exact run_invariant preserved inv ds

end PassingLink.Lib
