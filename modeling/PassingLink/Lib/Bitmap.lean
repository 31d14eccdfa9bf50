import Mathlib.Logic.Function.Basic

/-! A set of bits stored in bytes, the lowest bit of a byte first. -/
namespace PassingLink.Lib

structure Bitmap where
  data : Nat → UInt8

namespace Bitmap

def empty : Bitmap := ⟨fun _ => 0⟩

/-- `*p_ & 1 << offset_`, as a truth value. -/
def get (bitmap : Bitmap) (i : Nat) : Bool :=
  bitmap.data (i / 8) &&& (1 <<< UInt8.ofNat (i % 8)) != 0

/-- `*p_ |= 1 << offset_`, or `*p_ &= ~(1 << offset_)`. -/
def set (bitmap : Bitmap) (i : Nat) (rhs : Bool) : Bitmap where
  data :=
    Function.update bitmap.data (i / 8)
      (if rhs then bitmap.data (i / 8) ||| (1 <<< UInt8.ofNat (i % 8))
      else bitmap.data (i / 8) &&& ~~~(1 <<< UInt8.ofNat (i % 8)))

theorem mask_eq (i : Nat) :
    (1 <<< UInt8.ofNat (i % 8) : UInt8).toBitVec = BitVec.twoPow 8 (i % 8) := by
  have all : ∀ k : Fin 8, (1 <<< UInt8.ofNat k.val : UInt8).toBitVec = BitVec.twoPow 8 k.val := by
    decide
  exact all ⟨i % 8, Nat.mod_lt i (by decide)⟩

theorem get_eq (bitmap : Bitmap) (i : Nat) :
    bitmap.get i = (bitmap.data (i / 8)).toBitVec.getLsbD (i % 8) := by
  have below : i % 8 < 8 := Nat.mod_lt i (by decide)
  have nonzero : BitVec.twoPow 8 (i % 8) ≠ 0#8 := by
    intro zero
    have bit := congrArg (fun bits => bits.getLsbD (i % 8)) zero
    simp only [BitVec.getLsbD_twoPow, below, decide_true, Bool.and_self, BitVec.getLsbD_zero,
      Bool.true_eq_false] at bit
  have masked : (bitmap.get i = true) ↔
      (bitmap.data (i / 8)).toBitVec &&& BitVec.twoPow 8 (i % 8) ≠ 0#8 := by
    rw [get, bne_iff_ne, ne_eq, ← UInt8.toBitVec_inj, UInt8.toBitVec_and, mask_eq]
    exact Iff.rfl
  rw [Bool.eq_iff_iff, masked, BitVec.and_twoPow]
  split
  · rename_i bit
    exact iff_of_true nonzero bit
  · rename_i bit
    exact iff_of_false (fun differs => differs rfl) bit

theorem get_set (bitmap : Bitmap) (i j : Nat) (rhs : Bool) :
    (bitmap.set i rhs).get j = if j = i then rhs else bitmap.get j := by
  have below : j % 8 < 8 := Nat.mod_lt j (by decide)
  have below' : i % 8 < 8 := Nat.mod_lt i (by decide)
  rw [get_eq, get_eq]
  by_cases sameByte : j / 8 = i / 8
  · have same_iff : i % 8 = j % 8 ↔ j = i := by omega
    simp only [set, sameByte, Function.update_self]
    cases rhs with
    | true =>
        simp only [if_true, UInt8.toBitVec_or, mask_eq, BitVec.getLsbD_or, BitVec.getLsbD_twoPow,
          below', decide_true, Bool.true_and, same_iff]
        split
        · simp only [*, decide_true, Bool.or_true]
        · simp only [*, decide_false, Bool.or_false]
    | false =>
        simp only [Bool.false_eq_true, if_false, UInt8.toBitVec_and, UInt8.toBitVec_not, mask_eq,
          BitVec.getLsbD_and, BitVec.getLsbD_not, BitVec.getLsbD_twoPow, below, below',
          decide_true, Bool.true_and, same_iff]
        split
        · simp only [*, decide_true, Bool.not_true, Bool.and_false]
        · simp only [*, decide_false, Bool.not_false, Bool.and_true]
  · have differs : j ≠ i := fun same => sameByte (congrArg (fun k => k / 8) same)
    simp only [set, Function.update_of_ne sameByte, if_neg differs]

theorem get_empty (i : Nat) : empty.get i = false := by
  rw [get_eq]
  exact BitVec.getLsbD_zero

end Bitmap

end PassingLink.Lib
