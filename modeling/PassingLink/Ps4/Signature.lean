import PassingLink.Ps4.Auth

/-! `copy_signature` reads a window out of the concatenation of its parts. -/
namespace PassingLink.Ps4
open Lib

structure SignaturePart.Holds (part : SignaturePart) (bytes : List UInt8) : Prop where
  size : bytes.length = part.length
  copies : ∀ room offset,
    part.copy room offset part.length = some (copyGeneric bytes room offset part.length)

theorem length_bigEndian (n x : Nat) : (bigEndian n x).length = n := by
  induction n generalizing x with
  | zero => rfl
  | succ n ih => simp only [bigEndian, List.length_append, ih, List.length_singleton]

theorem copyGeneric_eq (arg : List UInt8) (room offset : Nat) :
    copyGeneric arg room offset arg.length = slice arg offset room := by
  simp only [copyGeneric]
  split
  · rfl
  · rename_i short
    rw [slice, slice, List.take_eq_take_iff, List.length_drop]
    omega

/-- The loop fills the room with the window at the offset into the concatenated parts, or runs out
of parts. -/
theorem copyParts_eq {parts : List SignaturePart} {images : List (List UInt8)}
    (held : List.Forall₂ SignaturePart.Holds parts images) (room offset : Nat) :
    copyParts parts room offset =
      if (slice images.flatten offset room).length = room then
        some (slice images.flatten offset room)
      else none := by
  induction held generalizing room offset with
  | nil => simp only [List.flatten_nil, slice_nil, copyParts, List.length_nil, eq_comm]
  | @cons part bytes parts images hold _ ih =>
      rw [List.flatten_cons, copyParts]
      by_cases skip : offset ≥ part.length
      · rw [if_pos skip, ih, ← hold.size, slice_append_right (by rw [hold.size]; exact skip)]
      · have inside : offset ≤ bytes.length := by
          rw [hold.size]
          exact Nat.le_of_not_le skip
        have room_le : (slice bytes offset room).length ≤ room := List.length_take_le _ _
        rw [if_neg skip, hold.copies, ← hold.size, copyGeneric_eq, slice_append inside]
        simp only [Option.pure_def, Option.bind_eq_bind, Option.bind_some]
        by_cases full : room - (slice bytes offset room).length = 0
        · have length : (slice bytes offset room).length = room := by omega
          rw [if_pos full, full, slice_zero, List.append_nil, if_pos length]
        · rw [if_neg full, ih, List.length_append]
          split
          · rename_i rest
            rw [if_pos (by omega), Option.bind_some]
          · rename_i rest
            rw [if_neg (by omega), Option.bind_none]

def signatureImages (key : PS4Key) (nonceSignature : List UInt8) : List (List UInt8) :=
  [nonceSignature, key.serial, bigEndian 256 key.rsaN, bigEndian 256 key.rsaE, key.signature,
    List.replicate 24 0]

/-- The blob the console reads in 19 replies of 56 bytes. -/
def signatureBlob (key : PS4Key) (nonceSignature : List UInt8) : List UInt8 :=
  nonceSignature ++ key.serial ++ bigEndian 256 key.rsaN ++ bigEndian 256 key.rsaE ++
    key.signature ++ List.replicate 24 0

theorem flatten_signatureImages (key : PS4Key) (nonceSignature : List UInt8) :
    (signatureImages key nonceSignature).flatten = signatureBlob key nonceSignature := by
  simp only [signatureImages, signatureBlob, List.flatten_cons, List.flatten_nil, List.append_nil,
    List.append_assoc]

theorem length_signatureBlob {key : PS4Key} {nonceSignature : List UInt8}
    (size : nonceSignature.length = 256) : (signatureBlob key nonceSignature).length = 1064 := by
  simp only [signatureBlob, List.length_append, size, key.serial_size, key.signature_size,
    length_bigEndian, List.length_replicate]

theorem copyMpi_holds {mpi : Nat} (small : mpi < 256 ^ 256) :
    SignaturePart.Holds ⟨256, copyMpi mpi⟩ (bigEndian 256 mpi) := by
  refine ⟨length_bigEndian 256 mpi, ?_⟩
  intro room offset
  simp only [copyMpi, if_true, mpiWriteBinary, if_pos small, Option.map_some]

theorem signatureParts_hold {key : PS4Key} {nonceSignature : List UInt8}
    (size : nonceSignature.length = 256) :
    List.Forall₂ SignaturePart.Holds (signatureParts key nonceSignature)
      (signatureImages key nonceSignature) := by
  refine .cons ⟨size, fun _ _ => rfl⟩ (.cons ⟨key.serial_size, fun _ _ => rfl⟩ ?_)
  refine .cons (copyMpi_holds key.rsaN_size) (.cons (copyMpi_holds key.rsaE_size) ?_)
  exact .cons ⟨key.signature_size, fun _ _ => rfl⟩
    (.cons ⟨List.length_replicate, fun _ _ => rfl⟩ .nil)

theorem copySignature_eq {key : PS4Key} {nonceSignature : List UInt8}
    (size : nonceSignature.length = 256) (room offset : Nat) :
    copySignature key nonceSignature room offset =
      if room = 0 ∨ offset + room ≤ 1064 then
        some (slice (signatureBlob key nonceSignature) offset room)
      else none := by
  have length : (slice (signatureBlob key nonceSignature) offset room).length =
      min room (1064 - offset) := by
    rw [length_slice_eq, length_signatureBlob size]
  rw [copySignature, copyParts_eq (signatureParts_hold size), flatten_signatureImages]
  by_cases fits : room = 0 ∨ offset + room ≤ 1064
  · rw [if_pos fits, if_pos (by omega)]
  · rw [if_neg fits, if_neg (by omega)]

theorem length_window {key : PS4Key} {nonceSignature : List UInt8}
    (size : nonceSignature.length = 256) {room offset : Nat} (fits : offset + room ≤ 1064) :
    (slice (signatureBlob key nonceSignature) offset room).length = room :=
  length_slice (by rw [length_signatureBlob size]; exact fits)

/-- The 19 chunks of 56 bytes are inside of the blob. -/
theorem part_window {part : UInt8} (bound : part < 19) : part.toNat * 56 + 56 ≤ 1064 := by
  have small : part.toNat < 19 := UInt8.lt_iff_toNat_lt.mp bound
  omega

theorem copySignature_window {key : PS4Key} {nonceSignature : List UInt8}
    (size : nonceSignature.length = 256) {room offset : Nat} (fits : offset + room ≤ 1064) :
    copySignature key nonceSignature room offset =
      some (slice (signatureBlob key nonceSignature) offset room) := by
  rw [copySignature_eq size, if_pos (Or.inr fits)]

end PassingLink.Ps4
