import Mathlib.Data.Finset.Card
import Mathlib.Data.List.Nodup

/-! A cache of distinct values in a fixed number of slots, which are filled from the first on and
never emptied: a value keeps the index under which it was first added. -/
namespace PassingLink.Lib

structure Slots (α : Type*) where
  slots : List (Option α)
  count : Nat

namespace Slots
variable {α : Type*}

def empty (n : Nat) : Slots α := ⟨List.replicate n none, 0⟩

/-- The index of a value, in the next slot if it is new and there is one. -/
def add [DecidableEq α] (s : Slots α) (x : α) : Option (Nat × Slots α) :=
  match s.slots.findIdx? fun slot => slot = some x with
  | some i => some (i, s)
  | none =>
      if s.count = s.slots.length then none
      else some (s.count, ⟨s.slots.set s.count (some x), s.count + 1⟩)

/-- The slots hold a list of distinct values and nothing after it. -/
structure Holds (s : Slots α) (n : Nat) (held : List α) : Prop where
  size : s.slots.length = n
  count : s.count = held.length
  room : held.length ≤ n
  nodup : held.Nodup
  slots : ∀ i, i < n → s.slots[i]? = some held[i]?

section Holds
variable {s : Slots α} {n : Nat} {held : List α} {x : α}

theorem holds_empty (n : Nat) : (empty n : Slots α).Holds n [] where
  size := List.length_replicate
  count := rfl
  room := Nat.zero_le n
  nodup := List.nodup_nil
  slots i low := by rw [empty, List.getElem?_replicate, if_pos low, List.getElem?_nil]

variable [DecidableEq α]

theorem Holds.find_held (holds : s.Holds n held) (member : x ∈ held) :
    s.slots.findIdx? (fun slot => slot = some x) = some (held.idxOf x) := by
  have inside := List.idxOf_lt_length_of_mem member
  have low := Nat.lt_of_lt_of_le inside holds.room
  rw [List.findIdx?_eq_some_iff_getElem]
  have at_slot (i : Nat) (below : i < s.slots.length) : s.slots[i] = held[i]? :=
    Option.some.inj ((List.getElem?_eq_getElem below).symm.trans
      (holds.slots i (holds.size ▸ below)))
  refine ⟨holds.size ▸ low, ?_, ?_⟩
  · rw [at_slot, decide_eq_true_iff]
    exact List.getElem?_idxOf member
  · intro j before found
    rw [at_slot, decide_eq_true_iff] at found
    obtain ⟨below, is⟩ := List.getElem?_eq_some_iff.mp found
    have same : j = held.idxOf x :=
      holds.nodup.getElem_inj_iff.mp (is.trans (List.getElem_idxOf inside).symm)
    exact Nat.ne_of_lt before same

theorem Holds.find_new (holds : s.Holds n held) (new : x ∉ held) :
    s.slots.findIdx? (fun slot => slot = some x) = none := by
  rw [List.findIdx?_eq_none_iff]
  intro slot member
  obtain ⟨i, below, is⟩ := List.mem_iff_getElem.mp member
  have at_slot := holds.slots i (holds.size ▸ below)
  rw [List.getElem?_eq_getElem below, is, Option.some_inj] at at_slot
  rw [decide_eq_false_iff_not]
  rintro rfl
  exact new (List.mem_of_getElem? at_slot.symm)

/-- A value that is held keeps its slot. -/
theorem Holds.add_held (holds : s.Holds n held) (member : x ∈ held) :
    s.add x = some (held.idxOf x, s) := by
  rw [add, holds.find_held member]

theorem Holds.add_full (holds : s.Holds n held) (new : x ∉ held) (full : held.length = n) :
    s.add x = none := by
  rw [add, holds.find_new new]
  exact if_pos (holds.count.trans (full.trans holds.size.symm))

theorem Holds.add_new (holds : s.Holds n held) (new : x ∉ held) (less : held.length < n) :
    ∃ s', s.add x = some (held.length, s') ∧ s'.Holds n (held ++ [x]) := by
  refine ⟨⟨s.slots.set s.count (some x), s.count + 1⟩, ?_, ?_⟩
  · rw [add, holds.find_new new, ← holds.count]
    refine if_neg ?_
    rw [holds.count, holds.size]
    exact Nat.ne_of_lt less
  · constructor
    · exact List.length_set.trans holds.size
    · rw [List.length_append, ← holds.count, List.length_singleton]
    · rw [List.length_append, List.length_singleton]
      exact less
    · rw [← List.concat_eq_append]
      exact holds.nodup.concat new
    · intro i low
      have slot := holds.slots i low
      rw [List.getElem?_set, holds.count]
      split
      · rename_i same
        subst same
        rw [if_pos (by rw [holds.size]; exact low), List.getElem?_concat_length]
      · rename_i other
        rw [slot]
        rcases Nat.lt_or_gt_of_ne other with after | before
        · rw [List.getElem?_eq_none (Nat.le_of_lt after), List.getElem?_eq_none]
          rw [List.length_append, List.length_singleton]
          exact after
        · rw [List.getElem?_append_left before]

end Holds

/-! ### Adding a list -/

section Run
variable [DecidableEq α] {n : Nat}

/-- The values that are held once another one has been added. -/
def grow (held : List α) (x : α) : List α := if x ∈ held then held else held ++ [x]

theorem grow_extends (held : List α) (x : α) : held <+: grow held x := by
  unfold grow
  split
  · exact List.prefix_rfl
  · exact List.prefix_append held [x]

theorem getElem?_grow {held : List α} {i : Nat} {y : α} (is : held[i]? = some y) (x : α) :
    (grow held x)[i]? = some y := by
  obtain ⟨below, -⟩ := List.getElem?_eq_some_iff.mp is
  unfold grow
  split
  · exact is
  · rwa [List.getElem?_append_left below]

theorem mem_grow {held : List α} {x y : α} : y ∈ grow held x ↔ y ∈ held ∨ y = x := by
  unfold grow
  split
  · rename_i member
    constructor
    · exact Or.inl
    · rintro (old | rfl)
      · exact old
      · exact member
  · rw [List.mem_append, List.mem_singleton]

/-- It fails only when the value is new and all slots are taken. -/
theorem Holds.add {s : Slots α} {held : List α} (holds : s.Holds n held) (x : α) :
    (n < (grow held x).length ∧ s.add x = none) ∨
      ∃ i s', s.add x = some (i, s') ∧ s'.Holds n (grow held x) ∧ (grow held x)[i]? = some x := by
  unfold grow
  split
  · rename_i member
    exact .inr ⟨_, s, holds.add_held member, holds, List.getElem?_idxOf member⟩
  · rename_i new
    rcases Nat.lt_or_ge held.length n with less | full
    · obtain ⟨s', added, holds'⟩ := holds.add_new new less
      exact .inr ⟨_, s', added, holds', List.getElem?_concat_length⟩
    · have full : held.length = n := Nat.le_antisymm holds.room full
      refine .inl ⟨?_, holds.add_full new full⟩
      rw [List.length_append, List.length_singleton, full]
      exact Nat.lt_succ_self n

theorem nodup_grow {held : List α} (nodup : held.Nodup) (x : α) : (grow held x).Nodup := by
  unfold grow
  split
  · exact nodup
  · rename_i new
    rw [← List.concat_eq_append]
    exact nodup.concat new

theorem grow_run (held xs : List α) :
    held <+: xs.foldl grow held ∧ (∀ y, y ∈ xs.foldl grow held ↔ y ∈ held ∨ y ∈ xs) ∧
      (held.Nodup → (xs.foldl grow held).Nodup) := by
  induction xs generalizing held with
  | nil =>
      refine ⟨List.prefix_rfl, ?_, id⟩
      intro y
      rw [List.foldl_nil, or_iff_left List.not_mem_nil]
  | cons x xs ih =>
      obtain ⟨more, members, distinct⟩ := ih (grow held x)
      refine ⟨(grow_extends held x).trans more, ?_, fun nodup => distinct (nodup_grow nodup x)⟩
      intro y
      rw [List.foldl_cons, members y, mem_grow, List.mem_cons, or_assoc]

/-- As many slots are taken as there are different values. -/
theorem length_grown (xs : List α) : (xs.foldl grow []).length = xs.toFinset.card := by
  obtain ⟨-, members, distinct⟩ := grow_run [] xs
  rw [← List.toFinset_card_of_nodup (distinct List.nodup_nil)]
  congr 1
  ext y
  rw [List.mem_toFinset, List.mem_toFinset, members y, or_iff_right List.not_mem_nil]

end Run

end Slots

end PassingLink.Lib
