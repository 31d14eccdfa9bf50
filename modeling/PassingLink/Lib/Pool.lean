import Mathlib.Order.CompletePartialOrder
import Mathlib.Order.Interval.Set.Disjoint
import PassingLink.Lib.Bitmap

/-! A row of equal blocks of memory, the used ones marked in a bitmap. -/
namespace PassingLink.Lib

/-! ### The first free block -/

def Bitmap.firstUnset (bits : Nat) (bitmap : Bitmap) : Option Nat :=
  (List.range bits).find? fun i => !bitmap.get i

theorem Bitmap.firstUnset_some {bits i : Nat} {bitmap : Bitmap}
    (found : bitmap.firstUnset bits = some i) : i < bits ∧ bitmap.get i = false := by
  have member := List.mem_of_find?_eq_some found
  have unset := List.find?_some found
  refine ⟨List.mem_range.mp member, ?_⟩
  rw [Bool.not_eq_true'] at unset
  exact unset

theorem Bitmap.firstUnset_none {bits : Nat} {bitmap : Bitmap} :
    bitmap.firstUnset bits = none ↔ ∀ i < bits, bitmap.get i = true := by
  simp only [firstUnset, List.find?_eq_none, List.mem_range, Bool.not_eq_true', Bool.not_eq_false]

/-! ### Where the blocks are -/

section Blocks
variable {base size : Nat}

def blockStart (base size i : Nat) : Nat := base + i * size

/-- The bytes of the block. -/
def blockRange (start size : Nat) : Set Nat := Set.Ico start (start + size)

def blockIndex (base size start : Nat) : Nat := (start - base) / size

theorem blockIndex_start (positive : 0 < size) (i : Nat) :
    blockIndex base size (blockStart base size i) = i := by
  rw [blockIndex, blockStart, Nat.add_sub_cancel_left, Nat.mul_div_cancel i positive]

theorem blockStart_succ_le {i j : Nat} (before : i < j) :
    blockStart base size i + size ≤ blockStart base size j := by
  have step : (i + 1) * size ≤ j * size := Nat.mul_le_mul_right size before
  rw [Nat.succ_mul] at step
  unfold blockStart
  omega

theorem blockRange_disjoint {first second size' : Nat} (apart : first + size ≤ second) :
    Disjoint (blockRange first size) (blockRange second size') :=
  Set.Ico_disjoint_Ico.mpr (le_trans (min_le_left _ _) (le_trans apart (le_max_right _ _)))

theorem blocks_disjoint {i j : Nat} (differ : i ≠ j) :
    Disjoint (blockRange (blockStart base size i) size)
      (blockRange (blockStart base size j) size) := by
  rcases Nat.lt_or_gt_of_ne differ with before | after
  · exact blockRange_disjoint (blockStart_succ_le before)
  · exact (blockRange_disjoint (blockStart_succ_le after)).symm

end Blocks

end PassingLink.Lib
