import Mathlib.Data.List.Basic

/-! Candidates that are tried in order until one succeeds. When none does, the last one stays. -/
namespace PassingLink.Lib

variable {α : Type*} {succeeds : α → Bool}

/-- The candidates that are tried. -/
def attempts (succeeds : α → Bool) : List α → List α
  | [] => []
  | [x] => [x]
  | x :: y :: rest => if succeeds x then [x] else x :: attempts succeeds (y :: rest)

theorem attempts_success {x : α} (success : succeeds x = true) (rest : List α) :
    attempts succeeds (x :: rest) = [x] := by
  cases rest with
  | nil => rfl
  | cons y rest => rw [attempts, if_pos success]

theorem attempts_failure {x : α} (failure : succeeds x = false) {rest : List α} (more : rest ≠ []) :
    attempts succeeds (x :: rest) = x :: attempts succeeds rest := by
  cases rest with
  | nil => exact absurd rfl more
  | cons y rest => rw [attempts, if_neg (Bool.eq_false_iff.mp failure)]

theorem attempts_ne_nil (succeeds : α → Bool) {xs : List α} (candidates : xs ≠ []) :
    attempts succeeds xs ≠ [] := by
  obtain ⟨x, rest, rfl⟩ := List.exists_cons_of_ne_nil candidates
  cases outcome : succeeds x with
  | true =>
      rw [attempts_success outcome]
      exact List.cons_ne_nil x []
  | false =>
      cases rest with
      | nil => exact List.cons_ne_nil x []
      | cons y rest =>
          rw [attempts_failure outcome (List.cons_ne_nil y rest)]
          exact List.cons_ne_nil x _

theorem attempts_initial (succeeds : α → Bool) (xs : List α) : attempts succeeds xs <+: xs := by
  induction xs with
  | nil => exact List.prefix_refl []
  | cons x rest ih =>
      cases rest with
      | nil => exact List.prefix_refl [x]
      | cons y rest =>
          cases outcome : succeeds x with
          | true =>
              rw [attempts_success outcome]
              exact List.cons_prefix_cons.mpr ⟨rfl, List.nil_prefix⟩
          | false =>
              rw [attempts_failure outcome (List.cons_ne_nil y rest)]
              exact List.cons_prefix_cons.mpr ⟨rfl, ih⟩

/-- The trials end at the first candidate that succeeds, or else at the last one. -/
theorem attempts_getLast? (succeeds : α → Bool) (xs : List α) :
    (attempts succeeds xs).getLast? = (xs.find? succeeds).or xs.getLast? := by
  induction xs with
  | nil => rfl
  | cons x rest ih =>
      cases outcome : succeeds x with
      | true =>
          rw [attempts_success outcome, List.find?_cons_of_pos outcome]
          rfl
      | false =>
          rw [List.find?_cons_of_neg (Bool.eq_false_iff.mp outcome)]
          cases rest with
          | nil => rfl
          | cons y rest =>
              have last : (x :: y :: rest).getLast? = (y :: rest).getLast? :=
                List.getLast?_cons_cons
              rw [attempts_failure outcome (List.cons_ne_nil y rest), last, ← ih]
              have tried := attempts_ne_nil succeeds (List.cons_ne_nil y rest)
              obtain ⟨z, later, shape⟩ := List.exists_cons_of_ne_nil tried
              rw [shape, List.getLast?_cons_cons]

end PassingLink.Lib
