import Mathlib.Data.Fintype.Card
import PassingLink.Input.Queue

/-! What each operation of `queue.cpp` does to the storage of the nodes. -/
namespace PassingLink.Input
open Lib

section Operations
variable {q : Queue} {r i : NodeRef} {chain : List NodeRef}

/-- Everything in front of the search hint is in use. -/
def Queue.Hinted (q : Queue) : Prop := ∀ r : NodeRef, r.val < q.storageLastAvail → q.used r = true

theorem firstUnused_some {used : NodeRef → Bool} {left : Nat} {bound : left ≤ queueStorageSize}
    (found : firstUnused used left bound = some i) :
    used i = false ∧ ∀ r : NodeRef, queueStorageSize - left ≤ r.val → r < i → used r = true := by
  induction left with
  | zero => cases found
  | succ left ih =>
      simp only [firstUnused] at found
      split at found
      · rename_i here
        obtain ⟨unused, before⟩ := ih found
        refine ⟨unused, ?_⟩
        intro r from_ below
        by_cases same : r.val = queueStorageSize - (left + 1)
        · rw [← here]
          congr 1
          exact Fin.ext same
        · exact before r (by omega) below
      · rename_i here
        cases found
        refine ⟨Bool.eq_false_iff.mpr here, ?_⟩
        intro r from_ below
        exact absurd from_ (Nat.not_le.mpr below)

theorem firstUnused_none {used : NodeRef → Bool} {left : Nat} {bound : left ≤ queueStorageSize}
    (full : firstUnused used left bound = none) (r : NodeRef)
    (from_ : queueStorageSize - left ≤ r.val) : used r = true := by
  induction left with
  | zero => exact absurd r.isLt (Nat.not_lt.mpr from_)
  | succ left ih =>
      simp only [firstUnused] at full
      split at full
      · rename_i here
        by_cases same : r.val = queueStorageSize - (left + 1)
        · rw [← here]
          congr 1
          exact Fin.ext same
        · exact ih full (by omega)
      · cases full

theorem used_set (q : Queue) (i r : NodeRef) (value : Bool) :
    (q.storageBitmap.set i.val value).get r.val = if r = i then value else q.used r := by
  rw [Bitmap.get_set]
  simp only [Fin.val_inj]
  rfl

/-- The queue with a node taken out of the unused ones. -/
def Queue.taken (q : Queue) (i : NodeRef) : Queue :=
  { q with
    storageBitmap := q.storageBitmap.set i.val true
    storageLastAvail := i.val + 1 }.setNext i none

theorem alloc_cases (hinted : q.Hinted) :
    inputQueueAlloc q = (none, q) ∧ (∀ r, q.used r = true) ∨
      ∃ i, inputQueueAlloc q = (some i, q.taken i) ∧ q.used i = false ∧
        ∀ r : NodeRef, r < i → q.used r = true := by
  unfold inputQueueAlloc
  split
  · rename_i full
    refine Or.inl ⟨rfl, ?_⟩
    intro r
    by_cases before : r.val < q.storageLastAvail
    · exact hinted r before
    · exact firstUnused_none full r (by omega)
  · rename_i i found
    obtain ⟨unused, before⟩ := firstUnused_some found
    refine Or.inr ⟨i, rfl, unused, ?_⟩
    intro r below
    by_cases hint : r.val < q.storageLastAvail
    · exact hinted r hint
    · exact before r (by omega) below

theorem used_taken (q : Queue) (i r : NodeRef) :
    (q.taken i).used r = if r = i then true else q.used r := used_set q i r true

theorem used_release (q : Queue) (i r : NodeRef) :
    (q.release i).used r = if r = i then false else q.used r := used_set q i r false

theorem link_setNext (q : Queue) (i : NodeRef) (next : Option NodeRef) :
    (q.setNext i next).link = Function.update q.link i next := by
  funext r
  simp only [Queue.link, Queue.setNext]
  by_cases same : r = i
  · rw [same, Function.update_self, Function.update_self]
  · rw [Function.update_of_ne same, Function.update_of_ne same]
    rfl

theorem link_fill (q : Queue) (i : NodeRef) (state : RawInputState) (delay : Nat) :
    (q.fill i state delay).link = q.link := by
  funext r
  simp only [Queue.link, Queue.fill]
  by_cases same : r = i
  · rw [same, Function.update_self]
  · rw [Function.update_of_ne same]

theorem hinted_taken (before : ∀ r : NodeRef, r < i → q.used r = true) :
    (q.taken i).Hinted := by
  intro r below
  rw [used_taken]
  split
  · rfl
  · rename_i other
    have differs : r.val ≠ i.val := fun same => other (Fin.ext same)
    change r.val < i.val + 1 at below
    have earlier : r.val < i.val := by omega
    exact before r earlier

theorem hinted_release (hinted : q.Hinted) : (q.release i).Hinted := by
  intro r below
  have both : r.val < i.val ∧ r.val < q.storageLastAvail := by
    simp only [Queue.release] at below
    split at below
    · exact ⟨below, by omega⟩
    · exact ⟨by omega, below⟩
  rw [used_release, if_neg (fun same => Nat.lt_irrefl r.val (by rw [← same] at both; exact both.1))]
  exact hinted r both.2

/-- The nodes of the chain are not in use any more, and nothing but the bits has changed. -/
structure Freed (q q' : Queue) (chain : List NodeRef) : Prop where
  same : ∃ storageBitmap storageLastAvail, q' = { q with storageBitmap, storageLastAvail }
  used_iff : ∀ r, q'.used r = true ↔ q.used r = true ∧ r ∉ chain
  hinted : q.Hinted → q'.Hinted

theorem Freed.link {q' : Queue} (freed : Freed q q' chain) : q'.link = q.link := by
  obtain ⟨storageBitmap, storageLastAvail, rfl⟩ := freed.same
  rfl

theorem freed_refl (q : Queue) : Freed q q [] := by
  constructor
  · exact ⟨q.storageBitmap, q.storageLastAvail, rfl⟩
  · intro r
    exact ⟨fun used => ⟨used, List.not_mem_nil⟩, fun both => both.1⟩
  · exact id

theorem freed_cons {q' : Queue} (rest : Freed (q.release i) q' chain) :
    Freed q q' (i :: chain) := by
  obtain ⟨⟨storageBitmap, storageLastAvail, same⟩, used_iff, hinted⟩ := rest
  constructor
  · exact ⟨storageBitmap, storageLastAvail, same⟩
  · intro r
    rw [used_iff, used_release, List.mem_cons, not_or]
    split
    · rename_i here
      exact iff_of_false (fun both => Bool.false_ne_true both.1) (fun both => both.2.1 here)
    · rename_i other
      exact ⟨fun both => ⟨both.1, other, both.2⟩, fun both => ⟨both.1, both.2.2⟩⟩
  · intro before
    exact hinted (hinted_release before)

theorem freed_loop {rounds : Nat} {rest : List NodeRef} (linked : Linked q.link (i :: rest))
    (enough : rest.length < rounds) : Freed q (freeLoop rounds q i) (i :: rest) := by
  induction rounds generalizing q i rest with
  | zero => exact absurd enough (Nat.not_lt_zero _)
  | succ rounds ih =>
      simp only [freeLoop]
      rw [linked.1]
      cases rest with
      | nil => exact freed_cons (freed_refl (q.release i))
      | cons j rest =>
          apply freed_cons
          exact ih linked.2 (Nat.lt_of_succ_lt_succ enough)

/-- Freeing a chain of different nodes comes to an end, and frees these nodes. -/
theorem freed_free {p : Option NodeRef} (linked : Linked q.link chain) (distinct : chain.Nodup)
    (start : chain.head? = p) : Freed q (inputQueueFree q p) chain := by
  cases chain with
  | nil =>
      rw [← start]
      exact freed_refl q
  | cons i rest =>
      rw [← start]
      apply freed_loop linked
      have bound := distinct.length_le_card
      rw [Fintype.card_fin, List.length_cons] at bound
      omega

/-- The queue at the node, before the end of the chain is dealt with. -/
def Queue.played (q : Queue) (p : NodeRef) : Queue :=
  { q with
    input := (q.storage p).state
    nextTick := q.nextTick + (q.storage p).delay
    next := q.link p }

theorem advance_next {p : NodeRef} (link : q.link p = some i) : q.advance p = q.played p := by
  have goes : (q.played p).next ≠ none := by
    change q.link p ≠ none
    rw [link]
    exact Option.some_ne_none i
  exact if_neg goes

theorem advance_end {p : NodeRef} (link : q.link p = none) :
    q.advance p =
      { inputQueueFree (q.played p) q.nextFreeHead with nextFreeHead := none } := if_pos link

/-- Freeing moves neither the play pointer nor the state that is handed out. -/
theorem free_unmoved (q : Queue) (p : Option NodeRef) :
    (inputQueueFree q p).next = q.next ∧ (inputQueueFree q p).input = q.input := by
  have loop (rounds : Nat) (q : Queue) (i : NodeRef) :
      (freeLoop rounds q i).next = q.next ∧ (freeLoop rounds q i).input = q.input := by
    induction rounds generalizing q i with
    | zero => exact ⟨rfl, rfl⟩
    | succ rounds ih =>
        unfold freeLoop
        split
        · exact ⟨rfl, rfl⟩
        · exact ih _ _
  cases p with
  | none => exact ⟨rfl, rfl⟩
  | some i => exact loop queueStorageSize q i

theorem advance_unmoved (q : Queue) (p : NodeRef) :
    (q.advance p).next = q.link p ∧ (q.advance p).input = (q.storage p).state := by
  cases link : q.link p with
  | none =>
      rw [advance_end link]
      obtain ⟨next, input⟩ := free_unmoved (q.played p) q.nextFreeHead
      exact ⟨next.trans link, input⟩
  | some i =>
      rw [advance_next link]
      exact ⟨link, rfl⟩

theorem getState_idle (idle : q.next = none) (now : Nat) :
    inputQueueGetState q now = (none, q) := by
  unfold inputQueueGetState
  rw [idle]

theorem getState_waits {p : NodeRef} (next : q.next = some p) {now : Nat}
    (early : ¬ q.nextTick < now) : inputQueueGetState q now = (some q.input, q) := by
  unfold inputQueueGetState
  rw [next]
  simp only [if_neg early]

theorem getState_due {p : NodeRef} (next : q.next = some p) {now : Nat}
    (due : q.nextTick < now) :
    inputQueueGetState q now = (some (q.storage p).state, q.advance p) := by
  unfold inputQueueGetState
  rw [next]
  simp only [if_pos due, advance_unmoved]

end Operations

end PassingLink.Input
