import PassingLink.Lib.Reassembly
import PassingLink.Ps4.History

/-! `copy_signature` with the memory that its buffer is in and with every check: the bounds of each
`memcpy`, the assertions and the panics. -/
namespace PassingLink.Ps4
open Lib

namespace Checked

/-- How a call goes wrong; `bounds` is an access outside of an array. -/
inductive Fault where
  | panic (message : String)
  | assertion
  | bounds
  deriving DecidableEq, Repr

/-- `span<uint8_t>`, with the place in the memory that it begins at. -/
structure Span where
  ptr : Nat
  length : Nat

def Span.Inside (buf : Span) (memory : List UInt8) : Prop :=
  buf.ptr + buf.length ≤ memory.length

def Span.removePrefix (buf : Span) (n : Nat) : Except Fault Span :=
  if buf.length ≥ n then return ⟨buf.ptr + n, buf.length - n⟩ else throw .assertion

/-- The memory after `n` bytes of an array, from `offset` on, have been copied to `dst`. -/
def memcpy (memory : List UInt8) (dst : Nat) (src : List UInt8) (offset n : Nat) :
    Except Fault (List UInt8) :=
  if offset + n ≤ src.length ∧ dst + n ≤ memory.length then
    return overwrite memory dst (slice src offset n)
  else throw .bounds

/-- An entry of the table; `function` has its `arg`, and answers with the number of bytes that it
has copied and the memory afterwards. -/
structure SignaturePart where
  length : Nat
  function : (memory : List UInt8) → (buf : Span) → (offset expectedSize : Nat) →
    Except Fault (Nat × List UInt8)

def copyGeneric (arg memory : List UInt8) (buf : Span) (offset expectedSize : Nat) :
    Except Fault (Nat × List UInt8) := do
  -- The loop calls it with an offset inside the part, so this does not wrap.
  let bytes := expectedSize - offset
  let bytes := if bytes > buf.length then buf.length else bytes
  let memory ← memcpy memory buf.ptr arg offset bytes
  return (bytes, memory)

/-- `writeBinary` is `mbedtls_mpi_write_binary` on an array of 256 bytes, with `none` for an
error. -/
def copyMpi (writeBinary : Nat → Option (Vector UInt8 256)) (mpi : Nat) (memory : List UInt8)
    (buf : Span) (offset expectedSize : Nat) : Except Fault (Nat × List UInt8) :=
  if expectedSize ≠ 256 then throw .assertion
  else
    match writeBinary mpi with
    | none => throw (.panic "failed to write mbedtls_mpi")
    | some data => copyGeneric data.toList memory buf offset expectedSize

/-- The loop over the parts that are left: the span that is still to be filled when it ends, and
the memory. -/
def copyParts : List SignaturePart → List UInt8 → Span → Nat → Except Fault (Span × List UInt8)
  | [], memory, buf, _ => return (buf, memory)
  | part :: parts, memory, buf, offset =>
      if offset ≥ part.length then copyParts parts memory buf (offset - part.length)
      else do
        let (bytesCopied, memory) ← part.function memory buf offset part.length
        let buf ← buf.removePrefix bytesCopied
        if buf.length = 0 then return (buf, memory)
        else copyParts parts memory buf 0

def signatureParts (writeBinary : Nat → Option (Vector UInt8 256)) (key : PS4Key)
    (nonceSignature : List UInt8) : List SignaturePart :=
  [⟨256, copyGeneric nonceSignature⟩, ⟨16, copyGeneric key.serial⟩,
    ⟨256, copyMpi writeBinary key.rsaN⟩, ⟨256, copyMpi writeBinary key.rsaE⟩,
    ⟨256, copyGeneric key.signature⟩, ⟨24, copyGeneric (List.replicate 24 0)⟩]

def copySignature (writeBinary : Nat → Option (Vector UInt8 256)) (key : PS4Key)
    (nonceSignature memory : List UInt8) (buf : Span) (offset : Nat) :
    Except Fault (List UInt8) := do
  let (buf, memory) ← copyParts (signatureParts writeBinary key nonceSignature) memory buf offset
  if buf.length ≠ 0 then throw (.panic "ran out of signature parts?") else return memory

/-! ### What the loop fills -/

/-- What is left of a span behind the bytes that have been copied to where it began. -/
def Span.behind (buf : Span) (copied : List UInt8) : Span :=
  ⟨buf.ptr + copied.length, buf.length - copied.length⟩

/-- The part is these bytes, and hands out those that it is asked for and that there is room
for. -/
structure SignaturePart.Holds (part : SignaturePart) (bytes : List UInt8) : Prop where
  size : bytes.length = part.length
  copies : ∀ memory buf offset, Span.Inside buf memory → offset < part.length →
    part.function memory buf offset part.length =
      .ok ((slice bytes offset buf.length).length,
        overwrite memory buf.ptr (slice bytes offset buf.length))

section Spans
variable {memory copied : List UInt8} {buf : Span}

theorem behind_nil (buf : Span) : buf.behind [] = buf := rfl

theorem behind_append (buf : Span) (xs ys : List UInt8) :
    (buf.behind xs).behind ys = buf.behind (xs ++ ys) := by
  simp only [Span.behind, List.length_append, Nat.add_assoc, Nat.sub_sub]

theorem removePrefix_eq (room : copied.length ≤ buf.length) :
    buf.removePrefix copied.length = .ok (buf.behind copied) := if_pos room

theorem inside_behind (inside : buf.Inside memory) (room : copied.length ≤ buf.length) :
    (buf.behind copied).Inside (overwrite memory buf.ptr copied) := by
  unfold Span.Inside at inside ⊢
  rw [length_overwrite (by omega)]
  simp only [Span.behind]
  omega

end Spans

section Parts
variable {bytes memory : List UInt8} {buf : Span} {offset : Nat}

theorem copyGeneric_eq (inside : buf.Inside memory) (reached : offset < bytes.length) :
    copyGeneric bytes memory buf offset bytes.length =
      .ok ((slice bytes offset buf.length).length,
        overwrite memory buf.ptr (slice bytes offset buf.length)) := by
  have length := length_slice_eq bytes offset buf.length
  have count : (if bytes.length - offset > buf.length then buf.length else bytes.length - offset) =
      (slice bytes offset buf.length).length := by
    split <;> omega
  have whole : slice bytes offset (slice bytes offset buf.length).length =
      slice bytes offset buf.length := by
    rw [length, slice, slice, List.take_eq_take_iff, List.length_drop]
    omega
  have bounds : offset + (slice bytes offset buf.length).length ≤ bytes.length ∧
      buf.ptr + (slice bytes offset buf.length).length ≤ memory.length := by
    unfold Span.Inside at inside
    omega
  simp only [copyGeneric, count, memcpy, if_pos bounds, whole]
  rfl

theorem copyGeneric_holds {length : Nat} (size : bytes.length = length) :
    SignaturePart.Holds ⟨length, copyGeneric bytes⟩ bytes := by
  subst size
  exact ⟨rfl, fun _ _ _ => copyGeneric_eq⟩

theorem copyMpi_holds {writeBinary : Nat → Option (Vector UInt8 256)} {mpi : Nat}
    {data : Vector UInt8 256} (written : writeBinary mpi = some data) :
    SignaturePart.Holds ⟨256, copyMpi writeBinary mpi⟩ data.toList := by
  have size : data.toList.length = 256 := data.length_toList
  refine ⟨size, ?_⟩
  intro memory buf offset inside reached
  have copied := @copyGeneric_eq data.toList memory buf offset inside (by rw [size]; exact reached)
  rw [size] at copied
  simp only [copyMpi, ne_eq, not_true_eq_false, if_false, written, copied]

end Parts

section Loop
variable {part : SignaturePart} {bytes memory : List UInt8} {buf : Span} {offset : Nat}

theorem copyParts_skip (parts : List SignaturePart) (skip : part.length ≤ offset) :
    copyParts (part :: parts) memory buf offset =
      copyParts parts memory buf (offset - part.length) := if_pos skip

/-- A part that the offset is inside of is copied to where the span begins. -/
theorem copyParts_copy (parts : List SignaturePart) (hold : part.Holds bytes)
    (inside : buf.Inside memory) (reached : offset < part.length) :
    copyParts (part :: parts) memory buf offset =
      if (buf.behind (slice bytes offset buf.length)).length = 0 then
        .ok (buf.behind (slice bytes offset buf.length),
          overwrite memory buf.ptr (slice bytes offset buf.length))
      else
        copyParts parts (overwrite memory buf.ptr (slice bytes offset buf.length))
          (buf.behind (slice bytes offset buf.length)) 0 := by
  have prefixed := removePrefix_eq (List.length_take_le buf.length (bytes.drop offset))
  rw [copyParts, if_neg (Nat.not_le.mpr reached), hold.copies memory buf offset inside reached]
  change (buf.removePrefix (slice bytes offset buf.length).length >>= _) = _
  rw [slice, prefixed]
  rfl

end Loop

/-- Whatever the parts are, the loop copies as much of their concatenation as there is from the
offset on and as there is room for. -/
theorem copyParts_eq {parts : List SignaturePart} {images : List (List UInt8)}
    (held : List.Forall₂ SignaturePart.Holds parts images) {memory : List UInt8} {buf : Span}
    (inside : buf.Inside memory) (offset : Nat) :
    copyParts parts memory buf offset =
      .ok (buf.behind (slice images.flatten offset buf.length),
        overwrite memory buf.ptr (slice images.flatten offset buf.length)) := by
  induction held generalizing memory buf offset with
  | nil =>
      rw [List.flatten_nil, slice_nil, overwrite_nil, behind_nil]
      rfl
  | @cons part bytes parts images hold _ ih =>
      rw [List.flatten_cons]
      by_cases skip : part.length ≤ offset
      · rw [copyParts_skip parts skip, ih inside, ← hold.size,
          slice_append_right (by rw [hold.size]; exact skip)]
      · have reached : offset < part.length := Nat.lt_of_not_le skip
        have room : (slice bytes offset buf.length).length ≤ buf.length := List.length_take_le _ _
        have start : buf.ptr ≤ memory.length := Nat.le_trans (Nat.le_add_right _ _) inside
        have rest : buf.length - (slice bytes offset buf.length).length =
            (buf.behind (slice bytes offset buf.length)).length := rfl
        rw [copyParts_copy parts hold inside reached,
          slice_append (by rw [hold.size]; exact Nat.le_of_lt reached), rest]
        by_cases full : (buf.behind (slice bytes offset buf.length)).length = 0
        · rw [if_pos full, full, slice_zero, List.append_nil]
        · rw [if_neg full, ih (inside_behind inside room) 0, behind_append]
          congr 2
          exact overwrite_append start _ _

/-! ### The six parts -/

def contents (key : PS4Key) (nonceSignature n e : List UInt8) : List (List UInt8) :=
  [nonceSignature, key.serial, n, e, key.signature, List.replicate 24 0]

section Signature
variable {writeBinary : Nat → Option (Vector UInt8 256)} {key : PS4Key} {n e : Vector UInt8 256}
  {nonceSignature memory : List UInt8} {buf : Span}

theorem length_contents (size : nonceSignature.length = 256) :
    (contents key nonceSignature n.toList e.toList).flatten.length = 1064 := by
  simp only [contents, List.flatten_cons, List.flatten_nil, List.length_append, List.length_nil,
    size, key.serial_size, key.signature_size, Vector.length_toList, List.length_replicate]

theorem signatureParts_hold (size : nonceSignature.length = 256)
    (writtenN : writeBinary key.rsaN = some n) (writtenE : writeBinary key.rsaE = some e) :
    List.Forall₂ SignaturePart.Holds (signatureParts writeBinary key nonceSignature)
      (contents key nonceSignature n.toList e.toList) := by
  refine .cons (copyGeneric_holds size) (.cons (copyGeneric_holds key.serial_size) ?_)
  refine .cons (copyMpi_holds writtenN) (.cons (copyMpi_holds writtenE) ?_)
  exact .cons (copyGeneric_holds key.signature_size)
    (.cons (copyGeneric_holds List.length_replicate) .nil)

/-- Either the whole span is filled, or the parts run out. -/
theorem copySignature_eq (size : nonceSignature.length = 256)
    (writtenN : writeBinary key.rsaN = some n) (writtenE : writeBinary key.rsaE = some e)
    (inside : buf.Inside memory) (offset : Nat) :
    copySignature writeBinary key nonceSignature memory buf offset =
      if buf.length = 0 ∨ offset + buf.length ≤ 1064 then
        .ok (overwrite memory buf.ptr
          (slice (contents key nonceSignature n.toList e.toList).flatten offset buf.length))
      else .error (.panic "ran out of signature parts?") := by
  let window := slice (contents key nonceSignature n.toList e.toList).flatten offset buf.length
  have length : window.length = min buf.length (1064 - offset) := by
    rw [length_slice_eq, length_contents size]
  have ends : copySignature writeBinary key nonceSignature memory buf offset =
      if (buf.behind window).length ≠ 0 then .error (.panic "ran out of signature parts?")
      else .ok (overwrite memory buf.ptr window) := by
    rw [copySignature, copyParts_eq (signatureParts_hold size writtenN writtenE) inside offset]
    rfl
  have left : (buf.behind window).length = buf.length - window.length := rfl
  rw [ends]
  by_cases fits : buf.length = 0 ∨ offset + buf.length ≤ 1064
  · rw [if_pos fits, if_neg (by omega)]
  · rw [if_neg fits, if_pos (by omega)]

end Signature

end Checked

def mpiBytes (mpi : Nat) : Vector UInt8 256 :=
  ⟨(bigEndian 256 mpi).toArray, length_bigEndian 256 mpi⟩

/-- `mbedtls_mpi_write_binary` on an array of 256 bytes. -/
def mpiWriteArray (mpi : Nat) : Option (Vector UInt8 256) :=
  if mpi < 256 ^ 256 then some (mpiBytes mpi) else none

theorem mpiWriteArray_eq {mpi : Nat} (small : mpi < 256 ^ 256) :
    mpiWriteArray mpi = some (mpiBytes mpi) := if_pos small

/-- What is said of the chunks elsewhere, without the memory, is right with it. -/
theorem checked_copySignature {key : PS4Key} {nonceSignature : List UInt8}
    (size : nonceSignature.length = 256) {memory : List UInt8} {buf : Checked.Span}
    (inside : buf.Inside memory) (offset : Nat) :
    Checked.copySignature mpiWriteArray key nonceSignature memory buf offset =
      (copySignature key nonceSignature buf.length offset).elim
        (.error (.panic "ran out of signature parts?"))
        fun bytes => .ok (overwrite memory buf.ptr bytes) := by
  have images := flatten_signatureImages key nonceSignature
  rw [Checked.copySignature_eq size (mpiWriteArray_eq key.rsaN_size)
    (mpiWriteArray_eq key.rsaE_size) inside, copySignature_eq size]
  split
  · rw [← images]
    rfl
  · rfl

/-- The span holds the bytes of the source from the offset on, and nothing else has changed. -/
structure Filled (source : List UInt8) (offset : Nat) (memory : List UInt8) (buf : Checked.Span)
    (memory' : List UInt8) : Prop where
  size : memory'.length = memory.length
  window : ∀ i < buf.length, memory'[buf.ptr + i]? = source[offset + i]?
  rest : ∀ i, ¬ (buf.ptr ≤ i ∧ i < buf.ptr + buf.length) → memory'[i]? = memory[i]?

theorem filled_overwrite {source memory : List UInt8} {buf : Checked.Span} {offset : Nat}
    (inside : buf.Inside memory) (fits : offset + buf.length ≤ source.length) :
    Filled source offset memory buf
      (overwrite memory buf.ptr (slice source offset buf.length)) := by
  have length : (slice source offset buf.length).length = buf.length := length_slice fits
  have stop : buf.ptr + (slice source offset buf.length).length ≤ memory.length := by
    rw [length]
    exact inside
  have elements := @Write.getElem?_apply _ memory ⟨buf.ptr, slice source offset buf.length⟩ stop
  constructor
  · exact length_overwrite stop
  · intro i below
    have covered : Write.covers ⟨buf.ptr, slice source offset buf.length⟩ (buf.ptr + i) = true := by
      rw [Write.covers_iff, length]
      exact ⟨Nat.le_add_right _ _, Nat.add_lt_add_left below _⟩
    refine (elements (buf.ptr + i)).trans ?_
    rw [if_pos covered, Nat.add_sub_cancel_left, getElem?_slice source offset below]
  · intro i outside
    refine (elements i).trans (if_neg ?_)
    rw [Write.covers_iff, length]
    exact outside

/-- Filling a span from the six parts: exactly the bytes from the offset on, or the panic. -/
theorem copy_signature_exact {writeBinary : Nat → Option (Vector UInt8 256)} {key : PS4Key}
    {n e : Vector UInt8 256} (writtenN : writeBinary key.rsaN = some n)
    (writtenE : writeBinary key.rsaE = some e) (nonceSignature : Vector UInt8 256)
    {memory : List UInt8} {buf : Checked.Span} (inside : buf.Inside memory)
    (nonempty : 1 ≤ buf.length) (offset : Nat) :
    (offset + buf.length ≤ 1064 →
      ∃ memory', Checked.copySignature writeBinary key nonceSignature.toList memory buf offset =
          .ok memory' ∧
        Filled (Checked.contents key nonceSignature.toList n.toList e.toList).flatten offset memory
          buf memory') ∧
    (1064 < offset + buf.length →
      Checked.copySignature writeBinary key nonceSignature.toList memory buf offset =
        .error (.panic "ran out of signature parts?")) := by
  have size : nonceSignature.toList.length = 256 := nonceSignature.length_toList
  rw [Checked.copySignature_eq size writtenN writtenE inside]
  constructor
  · intro fits
    refine ⟨_, if_pos (Or.inr fits), filled_overwrite inside ?_⟩
    rw [Checked.length_contents size]
    exact fits
  · intro past
    exact if_neg (by omega)

/-- The reply that a chunk is put into, behind its header of 4 bytes. -/
def chunkReply : List UInt8 := [0xF1, 0, 18, 0] ++ List.replicate 56 0

/-- The last chunk begins at 1008, and one byte further on there is none of 56 bytes. -/
theorem last_chunk_copied :
    (∃ memory', Checked.copySignature mpiWriteArray exampleKey (Vector.replicate 256 7).toList
        chunkReply ⟨4, 56⟩ 1008 = .ok memory' ∧
      Filled (Checked.contents exampleKey (Vector.replicate 256 7).toList (mpiBytes 0).toList
        (mpiBytes 0).toList).flatten 1008 chunkReply ⟨4, 56⟩ memory') ∧
    Checked.copySignature mpiWriteArray exampleKey (Vector.replicate 256 7).toList chunkReply
      ⟨4, 56⟩ 1009 = .error (.panic "ran out of signature parts?") := by
  have inside : Checked.Span.Inside ⟨4, 56⟩ chunkReply := Nat.le_refl 60
  have writtenN : mpiWriteArray exampleKey.rsaN = some (mpiBytes 0) :=
    mpiWriteArray_eq exampleKey.rsaN_size
  have writtenE : mpiWriteArray exampleKey.rsaE = some (mpiBytes 0) :=
    mpiWriteArray_eq exampleKey.rsaE_size
  constructor
  · exact (copy_signature_exact writtenN writtenE (Vector.replicate 256 7) inside (by decide)
      1008).1 (by decide)
  · exact (copy_signature_exact writtenN writtenE (Vector.replicate 256 7) inside (by decide)
      1009).2 (by decide)

end PassingLink.Ps4
