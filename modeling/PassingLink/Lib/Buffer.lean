import Mathlib.Data.List.Basic

/-! Flat buffers: copying into the middle of one and reading a range back. A copy
that runs past the end makes the list longer, so it is visible in the length. -/
namespace PassingLink.Lib

variable {α : Type*}

/-- The `n` elements of a buffer from an offset on. -/
def slice (buf : List α) (offset n : Nat) : List α := (buf.drop offset).take n

/-- Copy `data` over the elements of `buf` that start at `offset`. -/
def overwrite (buf : List α) (offset : Nat) (data : List α) : List α :=
  buf.take offset ++ data ++ buf.drop (offset + data.length)

theorem length_slice_eq (buf : List α) (offset n : Nat) :
    (slice buf offset n).length = min n (buf.length - offset) := by
  rw [slice, List.length_take, List.length_drop]

theorem length_slice {buf : List α} {offset n : Nat} (fits : offset + n ≤ buf.length) :
    (slice buf offset n).length = n := by
  rw [length_slice_eq]
  omega

theorem slice_all (buf : List α) : slice buf 0 buf.length = buf := by
  simp only [slice, List.drop_zero, List.take_length]

theorem slice_add (buf : List α) (offset m n : Nat) :
    slice buf offset (m + n) = slice buf offset m ++ slice buf (offset + m) n := by
  simp only [slice, List.take_add, List.drop_drop]

theorem slice_append_left {xs ys : List α} {offset n : Nat} (fits : offset + n ≤ xs.length) :
    slice (xs ++ ys) offset n = slice xs offset n := by
  rw [slice, List.drop_append_of_le_length (by omega),
    List.take_append_of_le_length (by simp only [List.length_drop]; omega), slice]

theorem slice_append_right {xs ys : List α} {offset n : Nat} (past : xs.length ≤ offset) :
    slice (xs ++ ys) offset n = slice ys (offset - xs.length) n := by
  rw [slice, slice, List.drop_append, List.drop_eq_nil_of_le past, List.nil_append]

theorem getElem?_slice (buf : List α) (offset : Nat) {n i : Nat} (below : i < n) :
    (slice buf offset n)[i]? = buf[offset + i]? := by
  rw [slice, List.getElem?_take, if_pos below, List.getElem?_drop]

theorem slice_nil (offset n : Nat) : slice ([] : List α) offset n = [] := by
  rw [slice, List.drop_nil, List.take_nil]

theorem slice_zero (buf : List α) (offset : Nat) : slice buf offset 0 = [] := List.take_zero

/-- What a range has from the first of two buffers, and from the beginning of the second one. -/
theorem slice_append {xs : List α} {offset : Nat} (inside : offset ≤ xs.length) (ys : List α)
    (n : Nat) :
    slice (xs ++ ys) offset n =
      slice xs offset n ++ slice ys 0 (n - (slice xs offset n).length) := by
  have rest : n - min n (xs.length - offset) = n - (xs.length - offset) := by omega
  rw [length_slice_eq, rest]
  simp only [slice, List.drop_append, List.take_append, List.length_drop,
    Nat.sub_eq_zero_of_le inside]

theorem overwrite_nil (buf : List α) (offset : Nat) : overwrite buf offset [] = buf := by
  rw [overwrite, List.append_nil, List.length_nil, Nat.add_zero, List.take_append_drop]

/-- Copies one behind the other are one copy. -/
theorem overwrite_append {buf : List α} {offset : Nat} (inside : offset ≤ buf.length)
    (xs ys : List α) :
    overwrite (overwrite buf offset xs) (offset + xs.length) ys =
      overwrite buf offset (xs ++ ys) := by
  have front : (buf.take offset ++ xs).length = offset + xs.length := by
    rw [List.length_append, List.length_take, Nat.min_eq_left inside]
  unfold overwrite
  rw [List.take_left' front, List.drop_append, front, List.drop_eq_nil_of_le (by omega),
    List.nil_append, List.drop_drop, List.length_append, List.append_assoc (buf.take offset)]
  congr 2
  omega

theorem length_overwrite {buf data : List α} {offset : Nat}
    (fits : offset + data.length ≤ buf.length) :
    (overwrite buf offset data).length = buf.length := by
  simp only [overwrite, List.length_append, List.length_take, List.length_drop]
  omega

theorem slice_overwrite_same {buf : List α} (data : List α) {offset : Nat}
    (inside : offset ≤ buf.length) :
    slice (overwrite buf offset data) offset data.length = data := by
  have start : (buf.take offset).length = offset := by
    rw [List.length_take]
    omega
  rw [overwrite, List.append_assoc, slice_append_right (by omega), start, Nat.sub_self,
    slice_append_left (by omega), slice_all]

theorem slice_overwrite_before {buf data : List α} {offset pos n : Nat}
    (inside : offset ≤ buf.length) (before : pos + n ≤ offset) :
    slice (overwrite buf offset data) pos n = slice buf pos n := by
  have start : (buf.take offset).length = offset := by
    rw [List.length_take]
    omega
  rw [overwrite, List.append_assoc, slice_append_left (by omega)]
  conv_rhs => rw [← List.take_append_drop offset buf]
  rw [slice_append_left (by omega)]

theorem slice_overwrite_after {buf data : List α} {offset pos n : Nat}
    (inside : offset ≤ buf.length) (after : offset + data.length ≤ pos) :
    slice (overwrite buf offset data) pos n = slice buf pos n := by
  have start : (buf.take offset).length = offset := by
    rw [List.length_take]
    omega
  rw [overwrite, slice_append_right (by simp only [List.length_append]; omega)]
  simp only [slice, List.drop_drop, List.length_append, start]
  congr 2
  omega

end PassingLink.Lib
