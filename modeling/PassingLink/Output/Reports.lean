import PassingLink.Lib.BitFields
import PassingLink.Lib.Buffer
import PassingLink.Lib.Runs
import PassingLink.Input.Types

/-! The input reports for the three consoles: the bit-field records of `nx/hid.cpp`,
`ps3/hid.cpp` and `ps4/hid.cpp`, and what can be read back from their bytes. -/
namespace PassingLink.Output
open Input Lib

/-- The members of the structures `OutputReport`, the ones without a name numbered. -/
inductive Member where
  | reportId
  | leftStickX | leftStickY | rightStickX | rightStickY
  | dpad
  | button (btn : OutputButton)
  | reportCounter | leftTrigger | rightTrigger
  | two (n : Nat)
  | contactCounter (n : Nat) | contactUnpressed (n : Nat) | contactData (n i : Nat)
  | padding (n : Nat)
  deriving DecidableEq, Repr

/-- The switch over the d-pad, with the code that the console has for no direction. -/
def dpadCode (neutral : Nat) : StickState → Nat
  | .north => 0
  | .northEast => 1
  | .east => 2
  | .southEast => 3
  | .south => 4
  | .southWest => 5
  | .west => 6
  | .northWest => 7
  | .neutral => neutral

/-- The assignments from the input; the rest of the record is `other`. -/
def outputReport (neutral : Nat) (other : Member → Nat) (input : InputState) : Member → Nat
  | .leftStickX => input.leftStickX.toNat
  | .leftStickY => input.leftStickY.toNat
  | .rightStickX => input.rightStickX.toNat
  | .rightStickY => input.rightStickY.toNat
  | .dpad => dpadCode neutral input.dpad
  | .button btn => (input.button btn).toNat
  | m => other m

/-- `GetInputReport` without its encoding; `none` is a failed `input_get_state`. -/
def getInputReport (reportId : UInt8) (buf : List UInt8) (input : Option InputState)
    (encode : InputState → List UInt8) : Int × List UInt8 :=
  if reportId = 0x01 then
    if buf.length ≠ 64 then (-1, buf)
    else
      match input with
      | none => (-1, buf)
      | some input => ((encode input).length, overwrite buf 0 (encode input))
  else (-1, buf)

namespace NX

def layout : Layout Member :=
  [(.button .west, 1), (.button .south, 1), (.button .east, 1), (.button .north, 1),
    (.button .l1, 1), (.button .r1, 1), (.button .l2, 1), (.button .r2, 1),
    (.button .select, 1), (.button .start, 1), (.button .l3, 1), (.button .r3, 1),
    (.button .home, 1), (.button .touchpad, 1), (.padding 15, 1), (.padding 16, 1),
    (.dpad, 4), (.padding 1, 4),
    (.leftStickX, 8), (.leftStickY, 8), (.rightStickX, 8), (.rightStickY, 8),
    (.padding 2, 8)]

def encode (input : InputState) : List UInt8 :=
  littleEndian 8 (pack (outputReport 8 (fun _ => 0) input) layout)

def getInputReport (reportId : UInt8) (buf : List UInt8) (input : Option InputState) :
    Int × List UInt8 :=
  Output.getInputReport reportId buf input encode

end NX

namespace PS3

def layout : Layout Member :=
  [(.button .west, 1), (.button .south, 1), (.button .east, 1), (.button .north, 1),
    (.button .l1, 1), (.button .r1, 1), (.button .l2, 1), (.button .r2, 1),
    (.button .select, 1), (.button .start, 1), (.button .l3, 1), (.button .r3, 1),
    (.button .home, 1), (.padding 1, 3),
    (.dpad, 4), (.padding 2, 4),
    (.leftStickX, 8), (.leftStickY, 8), (.rightStickX, 8), (.rightStickY, 8),
    (.padding 3, 13 * 8),
    (.two 1, 8), (.padding 4, 8), (.two 2, 8), (.padding 5, 8), (.two 3, 8), (.padding 6, 8),
    (.two 4, 8)]

def other : Member → Nat
  | .two _ => 0x02
  | _ => 0

def encode (input : InputState) : List UInt8 :=
  littleEndian 27 (pack (outputReport 8 other input) layout)

def getInputReport (reportId : UInt8) (buf : List UInt8) (input : Option InputState) :
    Int × List UInt8 :=
  Output.getInputReport reportId buf input encode

end PS3

namespace PS4

def contactLayout (n : Nat) : Layout Member :=
  [(.contactCounter n, 7), (.contactUnpressed n, 1), (.contactData n 0, 8),
    (.contactData n 1, 8), (.contactData n 2, 8)]

def layout : Layout Member :=
  [(.reportId, 8),
    (.leftStickX, 8), (.leftStickY, 8), (.rightStickX, 8), (.rightStickY, 8),
    (.dpad, 4),
    (.button .west, 1), (.button .south, 1), (.button .east, 1), (.button .north, 1),
    (.button .l1, 1), (.button .r1, 1), (.button .l2, 1), (.button .r2, 1),
    (.button .select, 1), (.button .start, 1), (.button .l3, 1), (.button .r3, 1),
    (.button .home, 1), (.button .touchpad, 1),
    (.reportCounter, 6),
    (.leftTrigger, 8), (.rightTrigger, 8),
    (.padding 0, 24), (.padding 1, 22 * 8)] ++
  contactLayout 1 ++ contactLayout 2 ++ [(.padding 2, 21 * 8)]

def contact (touchpadData : TouchpadData) (n : Nat) : TouchpadXY :=
  if n = 1 then touchpadData.p1 else touchpadData.p2

def other (reportCounter : UInt8) (touchpadData : TouchpadData) : Member → Nat
  | .reportId => 0x01
  | .reportCounter => reportCounter.toNat
  | .contactCounter n => (contact touchpadData n).counter.toNat
  | .contactUnpressed n => (contact touchpadData n).unpressed.toNat
  | .contactData n i => ((contact touchpadData n).data.getD i 0).toNat
  | _ => 0

def encode (reportCounter : UInt8) (touchpadData : TouchpadData) (input : InputState) :
    List UInt8 :=
  littleEndian 64 (pack (outputReport 15 (other reportCounter touchpadData) input) layout)

/-- The reply, and `last_report_counter_` afterwards, which counts in 8 bits. -/
def getInputReport (lastReportCounter : UInt8) (reportId : UInt8) (buf : List UInt8)
    (input : Option InputState) (touchpadData : TouchpadData) : (Int × List UInt8) × UInt8 :=
  let reply := Output.getInputReport reportId buf input (encode lastReportCounter touchpadData)
  (reply, if reply.1 = -1 then lastReportCounter else lastReportCounter + 1)

end PS4

/-! ### Reading a report -/

/-- What a report says about the input, `none` for a button that it does not have. -/
structure Contents where
  leftStickX : UInt8
  leftStickY : UInt8
  rightStickX : UInt8
  rightStickY : UInt8
  dpad : StickState
  button : OutputButton → Option Bool

def dpadOf : Nat → StickState
  | 0 => .north
  | 1 => .northEast
  | 2 => .east
  | 3 => .southEast
  | 4 => .south
  | 5 => .southWest
  | 6 => .west
  | 7 => .northWest
  | _ => .neutral

def decode (layout : Layout Member) (report : List UInt8) : Contents :=
  let read := unpack layout (ofBytes report)
  let stick (m : Member) : UInt8 := UInt8.ofNat ((read m).getD 0)
  { leftStickX := stick .leftStickX
    leftStickY := stick .leftStickY
    rightStickX := stick .rightStickX
    rightStickY := stick .rightStickY
    dpad := dpadOf ((read .dpad).getD 8)
    button := fun btn => (read (.button btn)).map fun bit => decide (bit = 1) }

def contentsOf (input : InputState) (buttons : List OutputButton) : Contents where
  leftStickX := input.leftStickX
  leftStickY := input.leftStickY
  rightStickX := input.rightStickX
  rightStickY := input.rightStickY
  dpad := input.dpad
  button := fun btn => if btn ∈ buttons then some (input.button btn) else none

def commonButtons : List OutputButton :=
  [.west, .south, .east, .north, .l1, .r1, .l2, .r2, .select, .start, .l3, .r3, .home]

def allButtons : List OutputButton := commonButtons ++ [.touchpad]

def fieldWidth (layout : Layout Member) (m : Member) : Option Nat :=
  (layout.locate m).map Prod.snd

/-- The record has exactly these buttons, and every field is wide enough. -/
structure Carries (layout : Layout Member) (buttons : List OutputButton) : Prop where
  leftStickX : fieldWidth layout .leftStickX = some 8
  leftStickY : fieldWidth layout .leftStickY = some 8
  rightStickX : fieldWidth layout .rightStickX = some 8
  rightStickY : fieldWidth layout .rightStickY = some 8
  dpad : fieldWidth layout .dpad = some 4
  button : ∀ btn, fieldWidth layout (.button btn) = if btn ∈ buttons then some 1 else none

theorem dpadOf_dpadCode {neutral : Nat} (wide : neutral < 16) (beyond : 7 < neutral)
    (stick : StickState) : dpadOf (dpadCode neutral stick % 2 ^ 4) = stick := by
  cases stick with
  | neutral =>
      have same : neutral % 2 ^ 4 = neutral := Nat.mod_eq_of_lt wide
      simp only [dpadCode, same]
      unfold dpadOf
      split <;> first | omega | rfl
  | _ => rfl

theorem decode_report {layout : Layout Member} {buttons : List OutputButton}
    (carries : Carries layout buttons) {size : Nat} (bytes : layout.width = 8 * size)
    {neutral : Nat} (wide : neutral < 16) (beyond : 7 < neutral) (other : Member → Nat)
    (input : InputState) :
    decode layout (littleEndian size (pack (outputReport neutral other input) layout)) =
      contentsOf input buttons := by
  obtain ⟨leftStickX, leftStickY, rightStickX, rightStickY, dpad, button⟩ := carries
  have record : ofBytes (littleEndian size (pack (outputReport neutral other input) layout)) =
      pack (outputReport neutral other input) layout := by
    apply ofBytes_littleEndian
    have below := pack_lt (outputReport neutral other input) layout
    rw [bytes, Nat.pow_mul] at below
    exact below
  have stick (value : UInt8) : UInt8.ofNat (value.toNat % 2 ^ 8) = value := by
    rw [Nat.mod_eq_of_lt value.toNat_lt, UInt8.ofNat_toNat]
  have bit (pressed : Bool) : decide (pressed.toNat % 2 ^ 1 = 1) = pressed := by
    cases pressed <;> rfl
  have read (btn : OutputButton) :
      (unpack layout (pack (outputReport neutral other input) layout) (.button btn)).map
        (fun bit => decide (bit = 1)) =
      if btn ∈ buttons then some (input.button btn) else none := by
    have known := button btn
    by_cases member : btn ∈ buttons
    · rw [if_pos member] at known ⊢
      rw [unpack_pack _ known, Option.map_some]
      exact congrArg some (bit (input.button btn))
    · rw [if_neg member] at known ⊢
      rw [unpack, Option.map_eq_none_iff.mp known, Option.map_none, Option.map_none]
  simp only [decode, record, unpack_pack _ leftStickX, unpack_pack _ leftStickY,
    unpack_pack _ rightStickX, unpack_pack _ rightStickY, unpack_pack _ dpad, Option.getD_some,
    outputReport, stick, dpadOf_dpadCode wide beyond, contentsOf, read]

/-- The report is accepted, leaves the rest of the buffer alone and says what was sent. -/
structure ReadsBack (layout : Layout Member) (size : Nat) (buttons : List OutputButton)
    (input : InputState) (buf : List UInt8) (reply : Int × List UInt8) : Prop where
  accepted : reply.1 = size
  rest : reply.2.drop size = buf.drop size
  contents : decode layout (reply.2.take size) = contentsOf input buttons

theorem getInputReport_accepted {buf : List UInt8} (full : buf.length = 64) (input : InputState)
    (encode : InputState → List UInt8) :
    getInputReport 1 buf (some input) encode =
      (((encode input).length : Int), overwrite buf 0 (encode input)) := by
  simp only [getInputReport, if_true, full, ne_eq, not_true_eq_false, if_false]

theorem readsBack {layout : Layout Member} {buttons : List OutputButton}
    (carries : Carries layout buttons) {size : Nat} (bytes : layout.width = 8 * size)
    {neutral : Nat} (wide : neutral < 16) (beyond : 7 < neutral) (other : Member → Nat)
    (input : InputState) {buf : List UInt8} (full : buf.length = 64) :
    ReadsBack layout size buttons input buf (getInputReport 1 buf (some input) fun input =>
      littleEndian size (pack (outputReport neutral other input) layout)) := by
  have written := slice_overwrite_same
    (littleEndian size (pack (outputReport neutral other input) layout)) (Nat.zero_le buf.length)
  rw [length_littleEndian, slice, List.drop_zero] at written
  rw [getInputReport_accepted full]
  constructor
  · exact congrArg Int.ofNat (length_littleEndian _ _)
  · have start : (littleEndian size (pack (outputReport neutral other input) layout)).length =
        size := length_littleEndian _ _
    unfold overwrite
    rw [List.take_zero, List.nil_append, List.drop_append, start, Nat.sub_self, Nat.zero_add,
      List.drop_eq_nil_of_le (Nat.le_of_eq start), List.nil_append, List.drop_zero]
  · rw [written]
    exact decode_report carries bytes wide beyond other input

/-- The fields have different names, and no two of them share a bit of the record. -/
structure Separate (layout : Layout Member) (size : Nat) : Prop where
  names : (layout.map Prod.fst).Nodup
  inside : ∀ m offset width, layout.locate m = some (offset, width) → offset + width ≤ 8 * size
  apart : ∀ m m' offset width offset' width', m ≠ m' →
    layout.locate m = some (offset, width) → layout.locate m' = some (offset', width') →
    offset + width ≤ offset' ∨ offset' + width' ≤ offset

theorem separate {layout : Layout Member} {size : Nat} (names : (layout.map Prod.fst).Nodup)
    (bytes : layout.width = 8 * size) : Separate layout size := by
  constructor
  · exact names
  · intro m offset width located
    rw [← bytes]
    exact locate_inside located
  · intro m m' offset width offset' width' differ located located'
    exact locate_disjoint differ located located'

theorem carriesNX : Carries NX.layout allButtons := by
  constructor
  case button =>
    intro btn
    cases btn <;> rfl
  all_goals rfl

theorem carriesPS3 : Carries PS3.layout commonButtons := by
  constructor
  case button =>
    intro btn
    cases btn <;> rfl
  all_goals rfl

theorem carriesPS4 : Carries PS4.layout allButtons := by
  constructor
  case button =>
    intro btn
    cases btn <;> rfl
  all_goals rfl

/-! ### The d-pad -/

def dpadField (layout : Layout Member) (report : List UInt8) : Option Nat :=
  unpack layout (ofBytes report) .dpad

theorem unpack_report {layout : Layout Member} (size : Nat) (bytes : layout.width = 8 * size)
    {m : Member} {width : Nat} (known : fieldWidth layout m = some width) (value : Member → Nat) :
    unpack layout (ofBytes (littleEndian size (pack value layout))) m =
      some (value m % 2 ^ width) := by
  have below := pack_lt value layout
  rw [bytes, Nat.pow_mul] at below
  rw [ofBytes_littleEndian below, unpack_pack value known]

/-- The codes that the three reports for the same input have for its d-pad. -/
structure DpadAgrees (stick : StickState) (nx ps3 ps4 : Option Nat) : Prop where
  direction : stick ≠ .neutral → ∃ code, code ≤ 7 ∧ nx = some code ∧ ps3 = some code ∧
    ps4 = some code
  neutral : stick = .neutral → ∃ a b c, nx = some a ∧ ps3 = some b ∧ ps4 = some c ∧
    7 < a ∧ 7 < b ∧ 7 < c

theorem dpadAgrees (stick : StickState) :
    DpadAgrees stick (some (dpadCode 8 stick % 2 ^ 4)) (some (dpadCode 8 stick % 2 ^ 4))
      (some (dpadCode 15 stick % 2 ^ 4)) := by
  constructor
  · intro direction
    refine ⟨dpadCode 8 stick, ?_, ?_, ?_, ?_⟩
    all_goals cases stick <;> first | decide | exact absurd rfl direction
  · intro neutral
    rw [neutral]
    exact ⟨8, 8, 15, rfl, rfl, rfl, by decide, by decide, by decide⟩

/-! ### The counter -/

namespace PS4

structure Call where
  reportId : UInt8
  buf : List UInt8
  input : Option InputState
  touchpadData : TouchpadData

/-- `last_report_counter_` and the number of reports that have succeeded since boot. -/
structure Sent where
  lastReportCounter : UInt8
  succeeded : Nat

def Sent.boot : Sent := ⟨0, 0⟩

def Sent.reply (s : Sent) (call : Call) : (Int × List UInt8) × UInt8 :=
  getInputReport s.lastReportCounter call.reportId call.buf call.input call.touchpadData

def Sent.step (s : Sent) (call : Call) : Sent where
  lastReportCounter := (s.reply call).2
  succeeded := if (s.reply call).1.1 = -1 then s.succeeded else s.succeeded + 1

def Sent.Counts (s : Sent) (call : Call) : Prop :=
  (s.reply call).1.1 ≠ -1 →
    unpack layout (ofBytes ((s.reply call).1.2.take 64)) .reportCounter = some (s.succeeded % 64)

def Sent.InStep (s : Sent) : Prop := s.lastReportCounter.toNat = s.succeeded % 256

theorem Sent.inStep_step (s : Sent) (call : Call) (inStep : s.InStep) :
    (s.step call).InStep := by
  have counter : (s.reply call).2 =
      if (s.reply call).1.1 = -1 then s.lastReportCounter else s.lastReportCounter + 1 := rfl
  unfold Sent.InStep at inStep ⊢
  simp only [Sent.step]
  rw [counter]
  by_cases failed : (s.reply call).1.1 = -1
  · rw [if_pos failed, if_pos failed]
    exact inStep
  · rw [if_neg failed, if_neg failed, UInt8.toNat_add, inStep]
    change (s.succeeded % 256 + 1) % 256 = (s.succeeded + 1) % 256
    omega

theorem Sent.counts (s : Sent) (call : Call) (inStep : s.InStep) : s.Counts call := by
  intro accepted
  unfold Sent.InStep at inStep
  simp only [Sent.reply, getInputReport, Output.getInputReport] at accepted ⊢
  split
  · rename_i first
    rw [if_pos first] at accepted
    split
    · rename_i wrong
      rw [if_pos wrong] at accepted
      exact absurd rfl accepted
    · rename_i full
      rw [if_neg full] at accepted
      cases given : call.input with
      | none =>
          rw [given] at accepted
          exact absurd rfl accepted
      | some input =>
          have written := slice_overwrite_same
            (encode s.lastReportCounter call.touchpadData input) (Nat.zero_le call.buf.length)
          have size : (encode s.lastReportCounter call.touchpadData input).length = 64 :=
            length_littleEndian _ _
          have carried : s.lastReportCounter.toNat % 2 ^ 6 = s.succeeded % 64 := by omega
          have counter : fieldWidth layout .reportCounter = some 6 := rfl
          rw [size, slice, List.drop_zero] at written
          rw [written, encode, unpack_report 64 rfl counter]
          exact congrArg some carried
  · rename_i unknown
    rw [if_neg unknown] at accepted
    exact absurd rfl accepted

end PS4

/-! ### The three encodings -/

def firstBits (layout : Layout Member) : List (Option (Nat × Nat)) :=
  commonButtons.map fun btn => layout.locate (.button btn)

structure Faithful : Prop where
  nx : ∀ input buf, buf.length = 64 →
    ReadsBack NX.layout 8 allButtons input buf (NX.getInputReport 1 buf (some input))
  ps3 : ∀ input buf, buf.length = 64 →
    ReadsBack PS3.layout 27 commonButtons input buf (PS3.getInputReport 1 buf (some input))
  ps4 : ∀ lastReportCounter touchpadData input buf, buf.length = 64 →
    ReadsBack PS4.layout 64 allButtons input buf
      (PS4.getInputReport lastReportCounter 1 buf (some input) touchpadData).1
  separate : Separate NX.layout 8 ∧ Separate PS3.layout 27 ∧ Separate PS4.layout 64
  dpad : ∀ lastReportCounter touchpadData input,
    DpadAgrees input.dpad (dpadField NX.layout (NX.encode input))
      (dpadField PS3.layout (PS3.encode input))
      (dpadField PS4.layout (PS4.encode lastReportCounter touchpadData input))
  order : firstBits NX.layout = (List.range 13).map (fun i => some (i, 1)) ∧
    firstBits PS3.layout = (List.range 13).map (fun i => some (i, 1)) ∧
    firstBits PS4.layout = (List.range 13).map (fun i => some (44 + i, 1))
  counter : ∀ calls, Along PS4.Sent.step PS4.Sent.Counts PS4.Sent.boot calls

/-- Every report says what the input was, in the same order for the common buttons, and the
reports of a run are counted without a gap. -/
theorem reports_faithful : Faithful := by
  constructor
  · intro input buf full
    exact readsBack carriesNX rfl (by decide) (by decide) (fun _ => 0) input full
  · intro input buf full
    exact readsBack carriesPS3 rfl (by decide) (by decide) PS3.other input full
  · intro lastReportCounter touchpadData input buf full
    exact readsBack carriesPS4 rfl (by decide) (by decide)
      (PS4.other lastReportCounter touchpadData) input full
  · exact ⟨separate (by decide) rfl, separate (by decide) rfl, separate (by decide) rfl⟩
  · intro lastReportCounter touchpadData input
    unfold dpadField NX.encode PS3.encode PS4.encode
    rw [unpack_report 8 rfl carriesNX.dpad,
      unpack_report 27 rfl carriesPS3.dpad,
      unpack_report 64 rfl carriesPS4.dpad]
    exact dpadAgrees input.dpad
  · exact ⟨by decide, by decide, by decide⟩
  · intro calls
    have boot : PS4.Sent.boot.InStep := rfl
    exact along_of_invariant PS4.Sent.inStep_step PS4.Sent.counts boot calls

example : NX.encode ⟨128, 0, 128, 128, .neutral, fun btn => btn = .south, ⟨⟨0, true, []⟩, ⟨0, true, []⟩⟩⟩ =
    [2, 0, 8, 128, 0, 128, 128, 0] := by decide

end PassingLink.Output
