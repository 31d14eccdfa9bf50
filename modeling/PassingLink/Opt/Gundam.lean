import PassingLink.Input.Queue

/-! `opt/gundam.cpp`: the camera of the spectator mode, which is moved by stick presses. -/
namespace PassingLink.Opt
open Input

/-- `current_cam` and the input queue. -/
structure Gundam where
  currentCam : UInt8
  queue : Queue

def Gundam.boot : Gundam := ⟨1, Queue.boot⟩

def pressStick (up : Bool) : RawInputState :=
  Function.update RawInputState.released (if up then .stickUp else .stickDown) true

/-- The loop that appends `count` presses and releases; `none` where a node is missing. -/
def pressLoop (ticksPerSec : Nat) (up : Bool) : Nat → Queue → NodeRef → Option NodeRef × Queue
  | 0, q, cur => (some cur, q)
  | count + 1, q, cur =>
      let delay := kUsToTicksCeil64 ticksPerSec 33333
      match inputQueueAppend (q.fill cur (pressStick up) delay) cur with
      | (none, q) => (none, q)
      | (some cur, q) =>
          match inputQueueAppend (q.fill cur RawInputState.released delay) cur with
          | (none, q) => (none, q)
          | (some cur, q) => pressLoop ticksPerSec up count q cur

namespace Gundam

def resetCam (g : Gundam) (x : UInt8) : Gundam := { g with currentCam := x }

/-- `adjust_cam`, with what it logs. The offset is an `int8_t`. -/
def adjustCam (ticksPerSec : Nat) (g : Gundam) (offset : Int8) (record : Bool) (now : Nat) :
    Option String × Gundam :=
  if inputQueueIsActive g.queue then
    (some "input queue is currently active, aborting", g)
  else
    let currentCam :=
      if record then UInt8.ofInt (g.currentCam.toNat + offset.toInt) else g.currentCam
    if offset = 0 then (none, ⟨currentCam, g.queue⟩)
    else
      let up := decide (0 < offset.toInt)
      let count := offset.toInt.natAbs
      match inputQueueAlloc g.queue with
      | (none, q) => (some "failed to allocate!", ⟨currentCam, q⟩)
      | (some head, q) =>
          match pressLoop ticksPerSec up count q head with
          | (none, q) =>
              (some "failed to allocate!", ⟨currentCam, inputQueueFree q (some head)⟩)
          | (some cur, q) =>
              let q := q.fill cur RawInputState.released 0
              (none, ⟨currentCam, inputQueueSetActive q (some head) true now⟩)

/-- `set_cam`. The difference of the two bytes is narrowed to the parameter of `adjust_cam`. -/
def setCam (ticksPerSec : Nat) (g : Gundam) (x : UInt8) (record : Bool) (now : Nat) :
    Option String × Gundam :=
  g.adjustCam ticksPerSec (Int8.ofInt (x.toNat - g.currentCam.toNat)) record now

end Gundam

end PassingLink.Opt
