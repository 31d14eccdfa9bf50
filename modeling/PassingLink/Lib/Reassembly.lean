import Mathlib.Data.List.Induction
import PassingLink.Lib.Buffer

/-! A buffer that is filled by writes at arbitrary offsets: which write each element is of. -/
namespace PassingLink.Lib

variable {α : Type*}

structure Write (α : Type*) where
  offset : Nat
  data : List α

namespace Write

def stop (write : Write α) : Nat := write.offset + write.data.length

def covers (write : Write α) (i : Nat) : Bool := write.offset ≤ i ∧ i < write.stop

def apply (buf : List α) (write : Write α) : List α := overwrite buf write.offset write.data

theorem covers_iff {write : Write α} {i : Nat} :
    write.covers i = true ↔ write.offset ≤ i ∧ i < write.offset + write.data.length :=
  decide_eq_true_iff

/-- The element that the last of the writes covering `i` stores there. -/
def last (writes : List (Write α)) (i : Nat) : Option α :=
  (writes.reverse.find? fun write => write.covers i).bind fun write => write.data[i - write.offset]?

theorem last_concat (writes : List (Write α)) (write : Write α) (i : Nat) :
    last (writes ++ [write]) i =
      if write.covers i then write.data[i - write.offset]? else last writes i := by
  unfold last
  rw [List.reverse_append, List.reverse_singleton, List.singleton_append, List.find?_cons]
  cases write.covers i with
  | true => rfl
  | false => rfl

theorem getElem?_apply {buf : List α} {write : Write α} (fits : write.stop ≤ buf.length) (i : Nat) :
    (write.apply buf)[i]? = if write.covers i then write.data[i - write.offset]? else buf[i]? := by
  unfold stop at fits
  have start : (buf.take write.offset).length = write.offset := by
    rw [List.length_take]
    omega
  rw [apply, overwrite, List.append_assoc]
  by_cases before : i < write.offset
  · have outside : ¬ write.covers i = true := by
      rw [covers_iff]
      omega
    rw [if_neg outside, List.getElem?_append_left (by omega), List.getElem?_take, if_pos before]
  · rw [List.getElem?_append_right (by omega), start]
    by_cases inside : i < write.offset + write.data.length
    · have covered := covers_iff.mpr ⟨Nat.le_of_not_lt before, inside⟩
      rw [if_pos covered, List.getElem?_append_left (by omega)]
    · have outside : ¬ write.covers i = true := by
        rw [covers_iff]
        omega
      rw [if_neg outside, List.getElem?_append_right (by omega), List.getElem?_drop]
      congr 1
      omega

/-- After writes that all fit, every element is of the last write that covers it. -/
theorem foldl_apply {buf : List α} (writes : List (Write α))
    (fits : ∀ write ∈ writes, write.stop ≤ buf.length) :
    (writes.foldl apply buf).length = buf.length ∧
      ∀ i, (writes.foldl apply buf)[i]? = if (last writes i).isSome then last writes i else buf[i]? := by
  induction writes using List.reverseRecOn with
  | nil => exact ⟨rfl, fun i => rfl⟩
  | append_singleton writes write ih =>
      obtain ⟨length, elements⟩ := ih fun other member =>
        fits other (List.mem_append_left _ member)
      have fit : write.stop ≤ (writes.foldl apply buf).length := by
        rw [length]
        exact fits write (List.mem_append_right _ (List.mem_singleton_self write))
      rw [List.foldl_append, List.foldl_cons, List.foldl_nil]
      constructor
      · exact (length_overwrite fit).trans length
      · intro i
        rw [getElem?_apply fit, last_concat, elements]
        cases covered : write.covers i with
        | false => rfl
        | true =>
            have inside := covers_iff.mp covered
            have present : i - write.offset < write.data.length := by omega
            simp only [if_true, List.getElem?_eq_getElem present, Option.isSome_some]

theorem last_found {writes : List (Write α)} {i : Nat} {write : Write α} (member : write ∈ writes)
    (covered : write.covers i = true) :
    ∃ found ∈ writes, found.covers i = true ∧
      last writes i = found.data[i - found.offset]? := by
  have covered : (writes.reverse.find? fun write => write.covers i).isSome = true := by
    rw [List.find?_isSome]
    exact ⟨write, List.mem_reverse.mpr member, covered⟩
  obtain ⟨found, is⟩ := Option.isSome_iff_exists.mp covered
  refine ⟨found, List.mem_reverse.mp (List.mem_of_find?_eq_some is), ?_, ?_⟩
  · exact List.find?_some (p := fun write : Write α => write.covers i) is
  · rw [last, is, Option.bind_some]

/-- Writes that all copy out of one list reproduce it wherever they go. -/
theorem last_of_copies {whole : List α} {writes : List (Write α)}
    (copies : ∀ write ∈ writes, ∀ j < write.data.length,
      write.data[j]? = whole[write.offset + j]?)
    {i : Nat} {write : Write α} (member : write ∈ writes) (covered : write.covers i = true) :
    last writes i = whole[i]? := by
  obtain ⟨found, among, covering, is⟩ := last_found member covered
  have inside := covers_iff.mp covering
  have copied := copies found among (i - found.offset) (by omega)
  rw [Nat.add_sub_cancel' inside.1] at copied
  rw [is, copied]

theorem isSome_last (writes : List (Write α)) (i : Nat) :
    (last writes i).isSome = writes.any fun write => write.covers i := by
  induction writes using List.reverseRecOn with
  | nil => rfl
  | append_singleton writes write ih =>
      rw [last_concat, List.any_append, List.any_cons, List.any_nil, Bool.or_false]
      cases covered : write.covers i with
      | false => rw [if_neg Bool.false_ne_true, ih, Bool.or_false]
      | true =>
          have inside := covers_iff.mp covered
          have present : i - write.offset < write.data.length := by omega
          rw [if_pos rfl, List.getElem?_eq_getElem present, Bool.or_true]
          rfl

/-- Later writes come before earlier ones. -/
theorem last_append (earlier later : List (Write α)) (i : Nat) :
    last (earlier ++ later) i = if (last later i).isSome then last later i else last earlier i := by
  induction later using List.reverseRecOn with
  | nil => rw [List.append_nil]; rfl
  | append_singleton later write ih =>
      rw [← List.append_assoc, last_concat, last_concat, ih]
      cases covered : write.covers i with
      | false => rfl
      | true =>
          have inside := covers_iff.mp covered
          have present : i - write.offset < write.data.length := by omega
          simp only [if_true, List.getElem?_eq_getElem present, Option.isSome_some]

section Single
variable {writes : List (Write α)} {covered : Nat → Prop} {value : Nat → α}
  (single : ∀ write, write ∈ writes ↔ ∃ i, covered i ∧ write = ⟨i, [value i]⟩)
include single

theorem single_stop {n : Nat} (inside : ∀ i, covered i → i < n) :
    ∀ write ∈ writes, write.stop ≤ n := by
  intro write member
  obtain ⟨i, covers, rfl⟩ := (single write).mp member
  exact inside i covers

/-- Writes of single elements, each of one value wherever it is written. -/
theorem foldl_single [DecidablePred covered] {buf : List α}
    (inside : ∀ i, covered i → i < buf.length) :
    (writes.foldl apply buf).length = buf.length ∧
      ∀ i, (writes.foldl apply buf)[i]? = if covered i then some (value i) else buf[i]? := by
  obtain ⟨length, elements⟩ := foldl_apply writes (single_stop single inside)
  refine ⟨length, fun i => (elements i).trans ?_⟩
  have placed {write : Write α} (member : write ∈ writes) (covers : write.covers i = true) :
      write = ⟨i, [value i]⟩ ∧ covered i := by
    obtain ⟨j, here, rfl⟩ := (single write).mp member
    obtain ⟨low, high⟩ := covers_iff.mp covers
    obtain rfl : j = i := Nat.le_antisymm low (Nat.le_of_lt_succ high)
    exact ⟨rfl, here⟩
  rw [isSome_last]
  by_cases here : covered i
  · have member : ⟨i, [value i]⟩ ∈ writes := (single _).mpr ⟨i, here, rfl⟩
    have covers : (⟨i, [value i]⟩ : Write α).covers i = true :=
      covers_iff.mpr ⟨Nat.le_refl i, Nat.lt_succ_self i⟩
    have covered : (writes.any fun write => write.covers i) = true :=
      List.any_eq_true.mpr ⟨_, member, covers⟩
    obtain ⟨found, among, covering, is⟩ := last_found member covers
    obtain ⟨rfl, -⟩ := placed among covering
    rw [covered, if_pos rfl, if_pos here, is, Nat.sub_self]
    rfl
  · have uncovered : (writes.any fun write => write.covers i) = false := by
      rw [List.any_eq_false]
      intro write member covers
      exact here (placed member covers).2
    rw [uncovered, if_neg here]
    rfl

end Single

end Write

end PassingLink.Lib
