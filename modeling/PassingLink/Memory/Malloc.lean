import PassingLink.Lib.Pool
import PassingLink.Lib.Runs

/-! The allocator of `malloc.cpp`: a bucket of small blocks and one large block. -/
namespace PassingLink.Memory
open Lib

/-! ### Buckets -/

structure Bucket (size count : Nat) where
  used : Bitmap

/-- `sizeof(Block)`, which is aligned like an `int`. -/
def sizeofBlock (size : Nat) : Nat := (size + 3) / 4 * 4

/-- `sizeof(Bucket<size, count>)`. -/
def sizeofBucket (size count : Nat) : Nat := (count * sizeofBlock size + (count + 7) / 8 + 3) / 4 * 4

section Bucket
variable {size count : Nat}

/-- The null pointer is left out. -/
def Bucket.alloc (address : Nat) (bucket : Bucket size count) : Option (Nat × Bucket size count) :=
  (bucket.used.firstUnset count).map fun idx =>
    (blockStart address (sizeofBlock size) idx, ⟨bucket.used.set idx true⟩)

def Bucket.free (address ptr : Nat) (bucket : Bucket size count) : Bucket size count :=
  ⟨bucket.used.set (blockIndex address (sizeofBlock size) ptr) false⟩

end Bucket

/-! ### The allocator -/

inductive Errno where
  | enomem
  deriving DecidableEq, Repr

structure Allocator where
  bucket264 : Bucket 264 35
  bucket528 : Bucket 528 1
  errno : Option Errno

def Allocator.boot : Allocator := ⟨⟨Bitmap.empty⟩, ⟨Bitmap.empty⟩, none⟩

/-- Where the linker has put the allocator. -/
structure Placement where
  address : Nat
  nonnull : 0 < address

def Placement.bucket264 (place : Placement) : Nat := place.address

def Placement.bucket528 (place : Placement) : Nat := place.address + sizeofBucket 264 35

def Allocator.malloc (place : Placement) (a : Allocator) (size : Nat) : Nat × Allocator :=
  if size ≤ 264 then
    match a.bucket264.alloc place.bucket264 with
    | some (ptr, bucket) => (ptr, { a with bucket264 := bucket })
    | none => (0, { a with errno := some .enomem })
  else if size ≤ 528 then
    match a.bucket528.alloc place.bucket528 with
    | some (ptr, bucket) => (ptr, { a with bucket528 := bucket })
    | none => (0, { a with errno := some .enomem })
  else (0, { a with errno := some .enomem })

def Allocator.free (place : Placement) (a : Allocator) (ptr : Nat) : Allocator :=
  if place.bucket264 ≤ ptr ∧ ptr < place.bucket264 + sizeofBucket 264 35 then
    { a with bucket264 := a.bucket264.free place.bucket264 ptr }
  else if place.bucket528 ≤ ptr ∧ ptr < place.bucket528 + sizeofBucket 528 1 then
    { a with bucket528 := a.bucket528.free place.bucket528 ptr }
  else a

/-! ### Blocks -/

inductive Block where
  | small (i : Fin 35)
  | large
  deriving DecidableEq, Repr

def Block.size : Block → Nat
  | .small _ => 264
  | .large => 528

def Block.start (place : Placement) : Block → Nat
  | .small i => blockStart place.bucket264 264 i
  | .large => place.bucket528

def Allocator.used (a : Allocator) : Block → Bool
  | .small i => a.bucket264.used.get i
  | .large => a.bucket528.used.get 0

/-- The allocator with the bit of one block changed. -/
def Allocator.mark (a : Allocator) (value : Bool) : Block → Allocator
  | .small i => { a with bucket264 := ⟨a.bucket264.used.set i value⟩ }
  | .large => { a with bucket528 := ⟨a.bucket528.used.set 0 value⟩ }

theorem mark_used (a : Allocator) (value : Bool) (block other : Block) :
    (a.mark value block).used other = if other = block then value else a.used other := by
  cases block with
  | small i =>
      cases other with
      | small j =>
          simp only [Allocator.mark, Allocator.used, Bitmap.get_set, Block.small.injEq, Fin.ext_iff]
      | large => rfl
  | large =>
      cases other with
      | small j => rfl
      | large => simp only [Allocator.mark, Allocator.used, Bitmap.get_set]

theorem bucket528_eq (place : Placement) : place.bucket528 = place.bucket264 + 9248 := rfl

theorem start_bounds (place : Placement) (i : Fin 35) :
    place.bucket264 ≤ (Block.small i).start place ∧
      (Block.small i).start place + 264 ≤ place.bucket528 := by
  have last := i.isLt
  rw [bucket528_eq, Block.start, blockStart]
  omega

theorem start_ne_zero (place : Placement) (block : Block) : block.start place ≠ 0 := by
  have nonnull := place.nonnull
  cases block with
  | small i =>
      have bounds := start_bounds place i
      have first : place.bucket264 = place.address := rfl
      omega
  | large =>
      have first : place.bucket264 = place.address := rfl
      rw [Block.start, bucket528_eq]
      omega

/-- The bytes of a block. -/
def Block.range (place : Placement) (block : Block) : Set Nat :=
  blockRange (block.start place) block.size

theorem range_disjoint (place : Placement) {block other : Block} (differ : block ≠ other) :
    Disjoint (block.range place) (other.range place) := by
  have apart (i : Fin 35) :
      Disjoint ((Block.small i).range place) (Block.large.range place) :=
    blockRange_disjoint (start_bounds place i).2
  cases block with
  | small i =>
      cases other with
      | small j =>
          apply blocks_disjoint
          intro same
          exact differ (congrArg Block.small (Fin.ext same))
      | large => exact apart i
  | large =>
      cases other with
      | small j => exact (apart j).symm
      | large => exact absurd rfl differ

theorem start_mem_range (place : Placement) (block : Block) :
    block.start place ∈ block.range place := by
  have positive : 0 < block.size := by
    cases block with
    | small i => exact Nat.succ_pos 263
    | large => exact Nat.succ_pos 527
  exact Set.mem_Ico.mpr ⟨Nat.le_refl _, Nat.lt_add_of_pos_right positive⟩

theorem start_inj (place : Placement) {block other : Block} :
    block.start place = other.start place ↔ block = other := by
  constructor
  · intro same
    by_contra differ
    have apart := range_disjoint place differ
    have theirs : block.start place ∈ other.range place := by
      rw [same]
      exact start_mem_range place other
    exact Set.disjoint_left.mp apart (start_mem_range place block) theirs
  · intro same
    rw [same]

/-! ### One call -/

/-- No block is left for a request of this size. -/
def Exhausted (used : Block → Prop) (size : Nat) : Prop :=
  528 < size ∨ (size ≤ 264 ∧ ∀ i, used (.small i)) ∨ (264 < size ∧ size ≤ 528 ∧ used .large)

inductive MallocCase (place : Placement) (a : Allocator) (size : Nat) : Nat × Allocator → Prop where
  | null (exhausted : Exhausted (fun block => a.used block = true) size) :
      MallocCase place a size (0, { a with errno := some .enomem })
  | block (block : Block) (unused : a.used block = false) (fits : size ≤ block.size)
      (spare : ¬ Exhausted (fun block => a.used block = true) size) :
      MallocCase place a size (block.start place, a.mark true block)

theorem malloc_cases (place : Placement) (a : Allocator) (size : Nat) :
    MallocCase place a size (a.malloc place size) := by
  unfold Allocator.malloc Bucket.alloc
  split
  · rename_i small
    cases found : a.bucket264.used.firstUnset 35 with
    | none =>
        have full := Bitmap.firstUnset_none.mp found
        exact .null (Or.inr (Or.inl ⟨small, fun i => full i i.isLt⟩))
    | some idx =>
        obtain ⟨below, unset⟩ := Bitmap.firstUnset_some found
        refine .block (.small ⟨idx, below⟩) unset small ?_
        rintro (huge | ⟨-, full⟩ | ⟨large, -⟩)
        · omega
        · have set := full ⟨idx, below⟩
          exact Bool.false_ne_true (unset.symm.trans set)
        · omega
  · rename_i large
    split
    · rename_i fits
      cases found : a.bucket528.used.firstUnset 1 with
      | none =>
          have full := Bitmap.firstUnset_none.mp found
          exact .null (Or.inr (Or.inr ⟨Nat.lt_of_not_le large, fits, full 0 (by decide)⟩))
      | some idx =>
          obtain ⟨below, unset⟩ := Bitmap.firstUnset_some found
          obtain rfl : idx = 0 := Nat.lt_one_iff.mp below
          refine .block .large unset fits ?_
          rintro (huge | ⟨small, -⟩ | ⟨-, -, full⟩)
          · omega
          · exact large small
          · exact Bool.false_ne_true (unset.symm.trans full)
    · rename_i huge
      exact .null (Or.inl (Nat.lt_of_not_le huge))

theorem free_null (place : Placement) (a : Allocator) : a.free place 0 = a := by
  have nonnull := place.nonnull
  have below : ¬ place.bucket264 ≤ 0 := Nat.not_le.mpr nonnull
  have below' : ¬ place.bucket528 ≤ 0 := by
    rw [bucket528_eq]
    omega
  rw [Allocator.free, if_neg fun inside => below inside.1, if_neg fun inside => below' inside.1]

theorem free_block (place : Placement) (a : Allocator) (block : Block) :
    a.free place (block.start place) = a.mark false block := by
  cases block with
  | small i =>
      have bounds := start_bounds place i
      have inside : place.bucket264 ≤ (Block.small i).start place ∧
          (Block.small i).start place < place.bucket264 + sizeofBucket 264 35 := by
        rw [bucket528_eq] at bounds
        exact ⟨bounds.1, Nat.lt_of_lt_of_le (Nat.lt_add_of_pos_right (by decide)) bounds.2⟩
      have index : blockIndex place.bucket264 (sizeofBlock 264) ((Block.small i).start place) = i :=
        blockIndex_start (by decide) i
      rw [Allocator.free, if_pos inside, Bucket.free, index]
      rfl
  | large =>
      have outside : ¬ (place.bucket264 ≤ Block.large.start place ∧
          Block.large.start place < place.bucket264 + sizeofBucket 264 35) :=
        fun inside => Nat.lt_irrefl _ inside.2
      have inside : place.bucket528 ≤ Block.large.start place ∧
          Block.large.start place < place.bucket528 + sizeofBucket 528 1 :=
        ⟨Nat.le_refl _, Nat.lt_add_of_pos_right (by decide)⟩
      have index : blockIndex place.bucket528 (sizeofBlock 528) (Block.large.start place) = 0 := by
        rw [blockIndex, Block.start, Nat.sub_self, Nat.zero_div]
      rw [Allocator.free, if_neg outside, if_pos inside, Bucket.free, index]
      rfl

/-! ### Runs -/

inductive HeapCall where
  | malloc (size : Nat)
  | free (ptr : Nat)
  deriving DecidableEq, Repr

/-- The allocator, with the pointers that it has returned and not got back. -/
structure Heap where
  allocator : Allocator
  live : List Nat

def Heap.boot : Heap := ⟨Allocator.boot, []⟩

def Heap.step (place : Placement) (h : Heap) : HeapCall → Heap
  | .malloc size =>
      let (ptr, allocator) := h.allocator.malloc place size
      ⟨allocator, if ptr = 0 then h.live else ptr :: h.live⟩
  | .free ptr => ⟨h.allocator.free place ptr, h.live.filter (· ≠ ptr)⟩

/-- Only null and live pointers are given to `free`. -/
def Owned (h : Heap) : HeapCall → Prop
  | .malloc _ => True
  | .free ptr => ptr = 0 ∨ ptr ∈ h.live

/-- The live pointers are the starts of the marked blocks. -/
structure Accounted (place : Placement) (h : Heap) : Prop where
  used : ∀ block, h.allocator.used block = true ↔ block.start place ∈ h.live
  blocks : ∀ ptr ∈ h.live, ∃ block, ptr = Block.start place block

section Accounted
variable {place : Placement} {h : Heap}

theorem accounted_boot (place : Placement) : Accounted place Heap.boot where
  used := by
    intro block
    have unset : Allocator.boot.used block = false := by
      cases block with
      | small i => exact Bitmap.get_empty i
      | large => exact Bitmap.get_empty 0
    rw [Heap.boot, unset]
    exact iff_of_false Bool.false_ne_true List.not_mem_nil
  blocks := fun ptr member => absurd member List.not_mem_nil

theorem step_malloc (size : Nat) :
    h.step place (.malloc size) =
      ⟨(h.allocator.malloc place size).2,
        if (h.allocator.malloc place size).1 = 0 then h.live
        else (h.allocator.malloc place size).1 :: h.live⟩ := rfl

theorem accounted_malloc (accounted : Accounted place h) (size : Nat) :
    Accounted place (h.step place (.malloc size)) := by
  have call := malloc_cases place h.allocator size
  rw [step_malloc]
  generalize h.allocator.malloc place size = result at call
  cases call with
  | null exhausted => exact ⟨accounted.used, accounted.blocks⟩
  | block block unused fits spare =>
      have nonnull := start_ne_zero place block
      dsimp only
      rw [if_neg nonnull]
      constructor
      · intro other
        rw [mark_used, List.mem_cons, start_inj]
        split
        · rename_i same
          exact iff_of_true rfl (Or.inl same)
        · rename_i differs
          rw [accounted.used, or_iff_right differs]
      · intro ptr member
        rcases List.mem_cons.mp member with same | member
        · exact ⟨block, same⟩
        · exact accounted.blocks ptr member

theorem accounted_free (accounted : Accounted place h) {ptr : Nat}
    (owned : Owned h (.free ptr)) : Accounted place (h.step place (.free ptr)) := by
  have blocks : ∀ other ∈ h.live.filter (· ≠ ptr), ∃ block, other = Block.start place block :=
    fun other member => accounted.blocks other (List.mem_of_mem_filter member)
  refine ⟨?_, blocks⟩
  intro other
  simp only [Heap.step, List.mem_filter, decide_eq_true_eq]
  rcases owned with rfl | member
  · rw [free_null, accounted.used]
    exact (and_iff_left (start_ne_zero place other)).symm
  · obtain ⟨block, rfl⟩ := accounted.blocks ptr member
    rw [free_block, mark_used, Ne, start_inj]
    split
    · rename_i same
      exact iff_of_false Bool.false_ne_true fun kept => kept.2 same
    · rename_i differs
      rw [accounted.used]
      exact (and_iff_left differs).symm

theorem accounted_step (call : HeapCall) (owned : Owned h call) (accounted : Accounted place h) :
    Accounted place (h.step place call) := by
  cases call with
  | malloc size => exact accounted_malloc accounted size
  | free ptr => exact accounted_free accounted owned

/-- What `malloc` and `free` do in this state, in terms of the live pointers. -/
structure Allocates (place : Placement) (h : Heap) : Prop where
  used : ∀ block, h.allocator.used block = true ↔ block.start place ∈ h.live
  returned : ∀ size, (h.allocator.malloc place size).1 ≠ 0 →
    ∃ block, (h.allocator.malloc place size).1 = Block.start place block ∧ size ≤ block.size ∧
      ∀ other, Block.start place other ∈ h.live → Disjoint (block.range place) (other.range place)
  refused : ∀ size, (h.allocator.malloc place size).1 = 0 ↔
    Exhausted (fun block => block.start place ∈ h.live) size
  freed : ∀ ptr ∈ h.live, ∃ block, ptr = Block.start place block ∧
    h.allocator.free place ptr = h.allocator.mark false block ∧
    ∀ other, (h.allocator.free place ptr).used other =
      if other = block then false else h.allocator.used other
  ignored : h.allocator.free place 0 = h.allocator

theorem exhausted_live (accounted : Accounted place h) (size : Nat) :
    Exhausted (fun block => h.allocator.used block = true) size ↔
      Exhausted (fun block => block.start place ∈ h.live) size := by
  unfold Exhausted
  simp only [accounted.used]

theorem allocates_of_accounted (accounted : Accounted place h) : Allocates place h where
  used := accounted.used
  returned := by
    intro size nonnull
    have call := malloc_cases place h.allocator size
    generalize h.allocator.malloc place size = result at call nonnull
    cases call with
    | null exhausted => exact absurd rfl nonnull
    | block block unused fits spare =>
        refine ⟨block, rfl, fits, ?_⟩
        intro other live
        apply range_disjoint
        rintro rfl
        rw [← accounted.used, unused] at live
        exact Bool.false_ne_true live
  refused := by
    intro size
    have call := malloc_cases place h.allocator size
    rw [← exhausted_live accounted]
    generalize h.allocator.malloc place size = result at call
    cases call with
    | null exhausted => exact iff_of_true rfl exhausted
    | block block unused fits spare => exact iff_of_false (start_ne_zero place block) spare
  freed := by
    intro ptr member
    obtain ⟨block, rfl⟩ := accounted.blocks ptr member
    have marked := free_block place h.allocator block
    refine ⟨block, rfl, marked, fun other => ?_⟩
    rw [marked, mark_used]
  ignored := free_null place h.allocator

end Accounted

/-- After any calls with `free` of null and of live pointers only, the next `malloc` returns a
block of its own or has none left, and the next `free` gives back that block alone. -/
theorem heap_allocates (place : Placement) (calls : List HeapCall)
    (owned : Along (Heap.step place) Owned Heap.boot calls) :
    Allocates place (run (Heap.step place) Heap.boot calls) := by
  have preserved (h : Heap) (call : HeapCall) (owned : Owned h call)
      (accounted : Accounted place h) : Accounted place (h.step place call) :=
    accounted_step call owned accounted
  exact allocates_of_accounted
    (run_invariant_of_legal preserved (accounted_boot place) owned)

def smallPlacement : Placement := ⟨4, by decide⟩

/-- The first block is returned to, between two others. -/
theorem heap_reused :
    Allocates smallPlacement (run (Heap.step smallPlacement) Heap.boot
      [.malloc 264, .malloc 265, .free 4, .free 0, .malloc 1]) := by
  apply heap_allocates
  have first : 4 ∈ (run (Heap.step smallPlacement) Heap.boot
      [.malloc 264, .malloc 265]).live := by decide
  exact ⟨trivial, trivial, Or.inr first, Or.inl rfl, trivial, trivial⟩

end PassingLink.Memory
