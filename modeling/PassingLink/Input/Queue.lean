import PassingLink.Lib.Bitmap
import PassingLink.Lib.Chain
import PassingLink.Input.Types

/-! `queue.cpp`: the storage of the nodes, and the queue that stands in for the inputs. -/
namespace PassingLink.Input
open Lib

def queueStorageSize : Nat := 1024

/-- A pointer into `queue_storage`, which `input_queue_free` asserts to be in range. -/
abbrev NodeRef := Fin queueStorageSize

instance : NeZero queueStorageSize := ⟨Nat.succ_ne_zero 1023⟩

/-- `InputQueue`. Delays are made by `K_USEC`, so they are not negative. -/
structure InputQueue where
  state : RawInputState
  delay : Nat
  next : Option NodeRef

/-- The static variables. `hung` is set where the loop of `input_queue_free` would not end. -/
structure Queue where
  storageLastAvail : Nat
  storageBitmap : Bitmap
  storage : NodeRef → InputQueue
  input : RawInputState
  next : Option NodeRef
  nextFreeHead : Option NodeRef
  nextTick : Nat
  hung : Bool

def Queue.boot : Queue where
  storageLastAvail := 0
  storageBitmap := Bitmap.empty
  storage := fun _ => ⟨RawInputState.released, 0, none⟩
  input := RawInputState.released
  next := none
  nextFreeHead := none
  nextTick := 0
  hung := false

def Queue.used (q : Queue) (r : NodeRef) : Bool := q.storageBitmap.get r.val

def Queue.link (q : Queue) (r : NodeRef) : Option NodeRef := (q.storage r).next

def Queue.setNext (q : Queue) (r : NodeRef) (next : Option NodeRef) : Queue :=
  { q with storage := Function.update q.storage r { q.storage r with next } }

/-- The assignments to `state` and `delay` of a node by the code that builds a chain. -/
def Queue.fill (q : Queue) (r : NodeRef) (state : RawInputState) (delay : Nat) : Queue :=
  { q with storage := Function.update q.storage r { q.storage r with state, delay } }

/-- The first of the last `left` nodes of the storage that is not in use. -/
def firstUnused (used : NodeRef → Bool) : (left : Nat) → left ≤ queueStorageSize → Option NodeRef
  | 0, _ => none
  | left + 1, bound =>
      let i : NodeRef := ⟨queueStorageSize - (left + 1),
        Nat.sub_lt (Nat.lt_of_lt_of_le (Nat.succ_pos left) bound) (Nat.succ_pos left)⟩
      if used i then firstUnused used left (Nat.le_of_succ_le bound) else some i

def inputQueueAlloc (q : Queue) : Option NodeRef × Queue :=
  match firstUnused q.used (queueStorageSize - q.storageLastAvail) (Nat.sub_le _ _) with
  | none => (none, q)
  | some i =>
      (some i,
        { q with
          storageBitmap := q.storageBitmap.set i.val true
          storageLastAvail := i.val + 1 }.setNext i none)

def inputQueueAppend (q : Queue) (head : NodeRef) : Option NodeRef × Queue :=
  match inputQueueAlloc q with
  | (none, q) => (none, q)
  | (some tail, q) => (some tail, (q.setNext head (some tail)).setNext tail none)

def Queue.release (q : Queue) (offset : NodeRef) : Queue :=
  { q with
    storageBitmap := q.storageBitmap.set offset.val false
    storageLastAvail :=
      if offset.val < q.storageLastAvail then offset.val else q.storageLastAvail }

/-- The loop of `input_queue_free`, for at most so many nodes. -/
def freeLoop : Nat → Queue → NodeRef → Queue
  | 0, q, _ => { q with hung := true }
  | rounds + 1, q, p =>
      match q.link p with
      | none => q.release p
      | some next => freeLoop rounds (q.release p) next

def inputQueueFree (q : Queue) : Option NodeRef → Queue
  | none => q
  | some p => freeLoop queueStorageSize q p

/-- The branch of `input_queue_get_state` whose time has come. -/
def Queue.advance (q : Queue) (p : NodeRef) : Queue :=
  let q :=
    { q with
      input := (q.storage p).state
      nextTick := q.nextTick + (q.storage p).delay
      next := q.link p }
  if q.next = none then { inputQueueFree q q.nextFreeHead with nextFreeHead := none } else q

def inputQueueGetState (q : Queue) (now : Nat) : Option RawInputState × Queue :=
  match q.next with
  | none => (none, q)
  | some p =>
      let q := if q.nextTick < now then q.advance p else q
      (some q.input, q)

def inputQueueIsActive (q : Queue) : Bool := q.next.isSome

def inputQueueSetActive (q : Queue) (queue : Option NodeRef) (consume : Bool) (now : Nat) :
    Queue :=
  { inputQueueFree q q.nextFreeHead with
    next := queue
    nextTick := now
    nextFreeHead := if consume then queue else none }

end PassingLink.Input
