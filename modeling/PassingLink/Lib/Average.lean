import Mathlib.Data.Nat.Init
import Mathlib.Logic.Function.Iterate

/-! Weighted averages of natural numbers, rounded down, and where they settle when the same value
is averaged in again and again. -/
namespace PassingLink.Lib

/-- A function that brings a number down to `K` and no further has done so after as many steps as
the number says. -/
theorem iterate_settles {f : Nat → Nat} {K : Nat} (fixed : ∀ d ≤ K, f d = d)
    (falls : ∀ d, K < d → f d < d) (stays : ∀ d, K < d → K ≤ f d) {d n : Nat} (enough : d ≤ n) :
    f^[n] d = min d K := by
  induction n generalizing d with
  | zero =>
      obtain rfl : d = 0 := Nat.le_zero.mp enough
      rw [Function.iterate_zero_apply, Nat.zero_min]
  | succ n ih =>
      by_cases reached : d ≤ K
      · rw [Function.iterate_fixed (fixed d reached), Nat.min_eq_left reached]
      · have above := Nat.lt_of_not_le reached
        have fallen := falls d above
        rw [Function.iterate_succ_apply, ih (by omega), Nat.min_eq_right (stays d above),
          Nat.min_eq_right (Nat.le_of_lt above)]

/-- The average of `a` and `v`, in which `v` counts as `num` parts of `denom`. -/
def blend (num denom a v : Nat) : Nat := ((denom - num) * a + num * v) / denom

section Blend
variable {num denom : Nat}

theorem blend_sum (less : num < denom) (x : Nat) : (denom - num) * x + num * x = denom * x := by
  rw [← Nat.add_mul, Nat.sub_add_cancel (Nat.le_of_lt less)]

theorem le_blend (less : num < denom) {lo a v : Nat} (first : lo ≤ a) (second : lo ≤ v) :
    lo ≤ blend num denom a v := by
  rw [blend, Nat.le_div_iff_mul_le (Nat.zero_lt_of_lt less), Nat.mul_comm, ← blend_sum less lo]
  exact Nat.add_le_add (Nat.mul_le_mul_left _ first) (Nat.mul_le_mul_left _ second)

theorem blend_le (less : num < denom) {hi a v : Nat} (first : a ≤ hi) (second : v ≤ hi) :
    blend num denom a v ≤ hi := by
  apply Nat.div_le_of_le_mul
  rw [← blend_sum less hi]
  exact Nat.add_le_add (Nat.mul_le_mul_left _ first) (Nat.mul_le_mul_left _ second)

/-! ### The distance to the value -/

/-- From above, of what is left of the distance. -/
theorem blend_above (less : num < denom) (v d : Nat) :
    blend num denom (v + d) v = v + (denom - num) * d / denom := by
  have sum : (denom - num) * (v + d) + num * v = (denom - num) * d + denom * v := by
    rw [Nat.mul_add, ← blend_sum less v]
    omega
  rw [blend, sum, Nat.add_mul_div_left _ _ (Nat.zero_lt_of_lt less), Nat.add_comm]

theorem blend_below (less : num < denom) (a d : Nat) :
    blend num denom a (a + d) = a + num * d / denom := by
  have sum : (denom - num) * a + num * (a + d) = num * d + denom * a := by
    rw [Nat.mul_add, ← blend_sum less a]
    omega
  rw [blend, sum, Nat.add_mul_div_left _ _ (Nat.zero_lt_of_lt less), Nat.add_comm]

/-- The largest distance from below that rounding down keeps from shrinking. -/
def dead (num denom : Nat) : Nat := (denom - 1) / num

theorem dead_iff (positive : 0 < num) (less : num < denom) (d : Nat) :
    num * d / denom = 0 ↔ d ≤ dead num denom := by
  rw [Nat.div_eq_zero_iff, dead, Nat.le_div_iff_mul_le positive, Nat.mul_comm]
  omega

/-- A step from below does not get nearer than that. -/
theorem dead_le (positive : 0 < num) (less : num < denom) {d : Nat} (far : dead num denom < d) :
    dead num denom ≤ d - num * d / denom := by
  have stuck : num * dead num denom < denom := by
    have zero := (dead_iff positive less (dead num denom)).mpr (Nat.le_refl _)
    rw [Nat.div_eq_zero_iff] at zero
    omega
  have split : num * d = num * dead num denom + num * (d - dead num denom) := by
    rw [← Nat.mul_add, Nat.add_sub_cancel' (Nat.le_of_lt far)]
  have rest : num * (d - dead num denom) ≤ denom * (d - dead num denom) :=
    Nat.mul_le_mul_right _ (Nat.le_of_lt less)
  have step : num * d / denom < d - dead num denom + 1 := by
    apply Nat.div_lt_of_lt_mul
    rw [Nat.mul_add, Nat.mul_one]
    omega
  omega

theorem above_settles (positive : 0 < num) (less : num < denom) (v : Nat) {d n : Nat}
    (enough : d ≤ n) : (blend num denom · v)^[n] (v + d) = v := by
  have same : Function.Semiconj (v + ·) (fun d => (denom - num) * d / denom)
      (blend num denom · v) := fun d => (blend_above less v d).symm
  have falls (d : Nat) (far : 0 < d) : (denom - num) * d / denom < d := by
    apply Nat.div_lt_of_lt_mul
    exact Nat.mul_lt_mul_of_pos_right (by omega) far
  have settled := iterate_settles (K := 0) (f := fun d => (denom - num) * d / denom)
    (fun d zero => by rw [Nat.le_zero.mp zero, Nat.mul_zero, Nat.zero_div]) falls
    (fun _ _ => Nat.zero_le _) enough
  rw [← same.iterate_right n d]
  dsimp only
  rw [settled, Nat.min_zero, Nat.add_zero]

theorem below_settles (positive : 0 < num) (less : num < denom) {v d n : Nat} (low : d ≤ v)
    (enough : d ≤ n) :
    (blend num denom · v)^[n] (v - d) = v - min d (dead num denom) := by
  have follow (m : Nat) : ∀ d ≤ v, (blend num denom · v)^[m] (v - d) =
      v - (fun d => d - num * d / denom)^[m] d := by
    induction m with
    | zero => exact fun _ _ => rfl
    | succ m ih =>
        intro d low
        have step : blend num denom (v - d) v = v - (d - num * d / denom) := by
          have part : num * d / denom ≤ d := by
            apply Nat.div_le_of_le_mul
            exact Nat.mul_le_mul_right d (Nat.le_of_lt less)
          have below := blend_below less (v - d) d
          rw [Nat.sub_add_cancel low] at below
          rw [below]
          omega
        rw [Function.iterate_succ_apply, Function.iterate_succ_apply, step]
        exact ih _ (Nat.le_trans (Nat.sub_le _ _) low)
  have settled := iterate_settles (K := dead num denom) (f := fun d => d - num * d / denom)
    (fun d near => by rw [(dead_iff positive less d).mpr near, Nat.sub_zero])
    (fun d far => by
      have moves := mt (dead_iff positive less d).mp (Nat.not_le.mpr far)
      exact Nat.sub_lt (Nat.zero_lt_of_lt far) (Nat.pos_of_ne_zero moves))
    (fun d far => dead_le positive less far) enough
  rw [follow n d low, settled]

end Blend

end PassingLink.Lib
