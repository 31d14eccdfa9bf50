import Mathlib.Order.Lattice

/-! The best element of a list that a loop keeps, in any order; and the greatest one under a key,
ties going to the earlier one: as a running maximum, and as the first element that no other one
exceeds. -/
namespace PassingLink.Lib

section Best
variable {α : Type*} {r beats : α → α → Prop} [DecidableRel beats]

/-- What is kept is one of the elements, and none of them is better. -/
theorem foldl_best (trans : ∀ a b c, r a b → r b c → r a c)
    (beaten : ∀ x best, beats x best → r best x) (kept : ∀ x best, ¬ beats x best → r x best)
    (xs : List α) (start : α) :
    let best := xs.foldl (fun best x => if beats x best then x else best) start
    best ∈ start :: xs ∧ ∀ x ∈ start :: xs, r x best := by
  induction xs generalizing start with
  | nil =>
      have refl : r start start := by
        by_cases self : beats start start
        · exact beaten start start self
        · exact kept start start self
      exact ⟨List.mem_singleton_self start, List.forall_mem_singleton.mpr refl⟩
  | cons x xs ih =>
      rw [List.foldl_cons]
      by_cases better : beats x start
      · rw [if_pos better]
        obtain ⟨member, all⟩ := ih x
        have first := trans _ _ _ (beaten x start better) (all x List.mem_cons_self)
        exact ⟨List.mem_cons_of_mem start member, List.forall_mem_cons.mpr ⟨first, all⟩⟩
      · rw [if_neg better]
        obtain ⟨member, all⟩ := ih start
        obtain ⟨first, rest⟩ := List.forall_mem_cons.mp all
        have second := trans _ _ _ (kept x start better) first
        refine ⟨List.cons_subset_cons start (List.subset_cons_self x xs) member, ?_⟩
        exact List.forall_mem_cons.mpr ⟨first, List.forall_mem_cons.mpr ⟨second, rest⟩⟩

end Best

variable {α κ : Type*} [LinearOrder κ] (key : α → κ)

/-- `a` is at least as great as every element. -/
def unbeaten (xs : List α) (a : α) : Bool := xs.all fun other => key other ≤ key a

def firstGreatest (xs : List α) : Option α := xs.find? (unbeaten key xs)

/-- The running maximum, replaced by strictly greater elements only. -/
def keepGreater (best : Option α) (a : α) : Option α :=
  match best with
  | none => some a
  | some old => if key old < key a then some a else some old

variable {key}

theorem unbeaten_iff {xs : List α} {a : α} :
    unbeaten key xs a = true ↔ ∀ other ∈ xs, key other ≤ key a := by
  simp only [unbeaten, List.all_eq_true, decide_eq_true_eq]

theorem find?_cons_beaten {p : α → Bool} {a : α} {xs : List α} (beaten : ¬ p a = true) :
    (a :: xs).find? p = xs.find? p := by
  simp only [List.find?_cons, beaten]

/-- An element that another one reaches makes no difference to who is unbeaten. -/
theorem unbeaten_cons_of_le {best a x : α} {xs : List α} (le : key a ≤ key best) :
    unbeaten key (best :: a :: xs) x = unbeaten key (best :: xs) x := by
  rw [Bool.eq_iff_iff, unbeaten_iff, unbeaten_iff]
  simp only [List.forall_mem_cons]
  constructor
  · rintro ⟨overBest, -, rest⟩
    exact ⟨overBest, rest⟩
  · rintro ⟨overBest, rest⟩
    exact ⟨overBest, le_trans le overBest, rest⟩

theorem foldl_keepGreater_some (best : α) (xs : List α) :
    xs.foldl (keepGreater key) (some best) = firstGreatest key (best :: xs) := by
  induction xs generalizing best with
  | nil =>
      have alone : unbeaten key [best] best = true := by
        simp only [unbeaten, List.all_cons, le_refl, decide_true, List.all_nil, Bool.and_self]
      simp only [List.foldl_nil, firstGreatest, List.find?_cons, alone]
  | cons a xs ih =>
      rw [List.foldl_cons]
      by_cases lt : key best < key a
      · have beaten : ¬ unbeaten key (best :: a :: xs) best = true := by
          intro unbeaten
          have le := unbeaten_iff.mp unbeaten a (by simp only [List.mem_cons, true_or, or_true])
          exact absurd lt (not_lt.mpr le)
        have same (x : α) :
            unbeaten key (best :: a :: xs) x = unbeaten key (a :: xs) x := by
          have swap : unbeaten key (best :: a :: xs) x = unbeaten key (a :: best :: xs) x := by
            rw [Bool.eq_iff_iff, unbeaten_iff, unbeaten_iff]
            simp only [List.forall_mem_cons, and_left_comm]
          rw [swap, unbeaten_cons_of_le (le_of_lt lt)]
        simp only [keepGreater, if_pos lt, ih, firstGreatest]
        rw [find?_cons_beaten beaten]
        simp only [funext same]
      · have le : key a ≤ key best := not_lt.mp lt
        have same : unbeaten key (best :: a :: xs) = unbeaten key (best :: xs) :=
          funext fun x => unbeaten_cons_of_le le
        simp only [keepGreater, if_neg lt, ih, firstGreatest, same]
        by_cases top : unbeaten key (best :: xs) best = true
        · simp only [List.find?_cons, top]
        · have beaten : ¬ unbeaten key (best :: xs) a = true := by
            intro unbeatenA
            apply top
            rw [unbeaten_iff] at unbeatenA ⊢
            intro other member
            exact le_trans (unbeatenA other member) le
          rw [find?_cons_beaten top, find?_cons_beaten top, find?_cons_beaten beaten]

theorem foldl_keepGreater (xs : List α) :
    xs.foldl (keepGreater key) none = firstGreatest key xs := by
  cases xs with
  | nil => rfl
  | cons a xs => exact foldl_keepGreater_some a xs

end PassingLink.Lib
