import Mathlib.Data.Nat.Digits.Defs

/-! Records of bit-fields that are laid out one after the other from the lowest bit on, and
numbers as bytes in little-endian order. -/
namespace PassingLink.Lib

variable {ν : Type*}

/-- The fields in the order of their declaration, each with its width in bits. -/
abbrev Layout (ν : Type*) := List (ν × Nat)

def Layout.width (layout : Layout ν) : Nat := (layout.map Prod.snd).sum

def pack (value : ν → Nat) : Layout ν → Nat
  | [] => 0
  | (name, width) :: layout => value name % 2 ^ width + 2 ^ width * pack value layout

def bitsAt (record offset width : Nat) : Nat := record / 2 ^ offset % 2 ^ width

theorem pack_lt (value : ν → Nat) (layout : Layout ν) : pack value layout < 2 ^ layout.width := by
  induction layout with
  | nil => exact Nat.one_pos
  | cons field layout ih =>
      obtain ⟨name, width⟩ := field
      have low : value name % 2 ^ width < 2 ^ width := Nat.mod_lt _ (Nat.two_pow_pos width)
      have split : Layout.width ((name, width) :: layout) = width + Layout.width layout := by
        simp only [Layout.width, List.map_cons, List.sum_cons]
      rw [split, Nat.pow_add]
      calc value name % 2 ^ width + 2 ^ width * pack value layout
          < 2 ^ width + 2 ^ width * pack value layout := Nat.add_lt_add_right low _
        _ = 2 ^ width * (pack value layout + 1) := by rw [Nat.mul_succ, Nat.add_comm]
        _ ≤ 2 ^ width * 2 ^ Layout.width layout := Nat.mul_le_mul_left _ ih

section Fields
variable [DecidableEq ν]

/-- The first bit and the width of a field. -/
def Layout.locate (name : ν) : Layout ν → Option (Nat × Nat)
  | [] => none
  | (other, width) :: layout =>
      if other = name then some (0, width)
      else (Layout.locate name layout).map fun place => (width + place.1, place.2)

def unpack (layout : Layout ν) (record : Nat) (name : ν) : Option Nat :=
  (layout.locate name).map fun place => bitsAt record place.1 place.2

/-- A field is found in the record with the value that was packed, as far as it fits. -/
theorem bitsAt_pack {layout : Layout ν} {name : ν} {offset width : Nat} (value : ν → Nat)
    (located : layout.locate name = some (offset, width)) :
    bitsAt (pack value layout) offset width = value name % 2 ^ width := by
  induction layout generalizing offset with
  | nil => cases located
  | cons field layout ih =>
      obtain ⟨other, first⟩ := field
      have low : value other % 2 ^ first < 2 ^ first := Nat.mod_lt _ (Nat.two_pow_pos first)
      simp only [Layout.locate] at located
      unfold bitsAt pack
      split at located
      · rename_i same
        cases located
        rw [Nat.pow_zero, Nat.div_one, Nat.add_mul_mod_self_left, same, Nat.mod_mod]
      · obtain ⟨place, found, moved⟩ := Option.map_eq_some_iff.mp located
        cases moved
        rw [Nat.pow_add, ← Nat.div_div_eq_div_mul, Nat.add_mul_div_left _ _ (Nat.two_pow_pos first),
          Nat.div_eq_of_lt low, Nat.zero_add]
        exact ih found

theorem unpack_pack {layout : Layout ν} {name : ν} {width : Nat} (value : ν → Nat)
    (known : (layout.locate name).map Prod.snd = some width) :
    unpack layout (pack value layout) name = some (value name % 2 ^ width) := by
  obtain ⟨⟨offset, _⟩, located, rfl⟩ := Option.map_eq_some_iff.mp known
  unfold unpack
  rw [located, Option.map_some, bitsAt_pack value located]

theorem locate_inside {layout : Layout ν} {name : ν} {offset width : Nat}
    (located : layout.locate name = some (offset, width)) : offset + width ≤ layout.width := by
  induction layout generalizing offset with
  | nil => cases located
  | cons field layout ih =>
      simp only [Layout.locate] at located
      have split : Layout.width (field :: layout) = field.2 + Layout.width layout := by
        simp only [Layout.width, List.map_cons, List.sum_cons]
      split at located
      · cases located
        omega
      · obtain ⟨place, found, moved⟩ := Option.map_eq_some_iff.mp located
        cases moved
        have inside := ih found
        omega

/-- Two fields of a layout share no bit. -/
theorem locate_disjoint {layout : Layout ν} {first second : ν} (differ : first ≠ second)
    {offset width offset' width' : Nat} (found : layout.locate first = some (offset, width))
    (found' : layout.locate second = some (offset', width')) :
    offset + width ≤ offset' ∨ offset' + width' ≤ offset := by
  induction layout generalizing offset offset' with
  | nil => cases found
  | cons field layout ih =>
      simp only [Layout.locate] at found found'
      split at found
      · rename_i here
        cases found
        rw [if_neg (fun there => differ (here.symm.trans there))] at found'
        obtain ⟨place, -, moved⟩ := Option.map_eq_some_iff.mp found'
        cases moved
        exact Or.inl (by omega)
      · obtain ⟨place, located, moved⟩ := Option.map_eq_some_iff.mp found
        cases moved
        split at found'
        · cases found'
          exact Or.inr (by omega)
        · obtain ⟨place', located', moved'⟩ := Option.map_eq_some_iff.mp found'
          cases moved'
          have apart := ih located located'
          omega

end Fields

/-! ### Bytes -/

def littleEndian : Nat → Nat → List UInt8
  | 0, _ => []
  | n + 1, x => UInt8.ofNat x :: littleEndian n (x / 256)

def ofBytes (bytes : List UInt8) : Nat := Nat.ofDigits 256 (bytes.map UInt8.toNat)

@[simp] theorem length_littleEndian (n x : Nat) : (littleEndian n x).length = n := by
  induction n generalizing x with
  | zero => rfl
  | succ n ih => rw [littleEndian, List.length_cons, ih]

theorem ofBytes_littleEndian {n x : Nat} (fits : x < 256 ^ n) : ofBytes (littleEndian n x) = x := by
  induction n generalizing x with
  | zero => exact (Nat.lt_one_iff.mp fits).symm
  | succ n ih =>
      have rest : x / 256 < 256 ^ n := by
        rw [Nat.pow_succ] at fits
        exact Nat.div_lt_of_lt_mul (by rwa [Nat.mul_comm])
      have later : Nat.ofDigits 256 ((littleEndian n (x / 256)).map UInt8.toNat) = x / 256 :=
        ih rest
      simp only [ofBytes, littleEndian, List.map_cons, Nat.ofDigits_cons, later,
        UInt8.toNat_ofNat']
      exact Nat.mod_add_div x 256

end PassingLink.Lib
