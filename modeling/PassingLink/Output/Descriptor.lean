import PassingLink.Lib.HidDescriptor
import PassingLink.Output.Reports

/-! The report descriptors of the three consoles against the records that are sent: what a host
that goes by the descriptor reads in an input report. -/
namespace PassingLink.Output
open Input Lib HidDescriptor

def plHidReportDescriptor : List UInt8 :=
  [0x06, 0x42, 0xFF, 0x09, 0x01, 0xA1, 0x01, 0x75, 0x08, 0x95, 0x3F, 0x85, 0x40, 0x0A, 0x40, 0x42,
    0xB1, 0x02, 0x85, 0x41, 0x0A, 0x41, 0x42, 0xB1, 0x02, 0x85, 0x42, 0x0A, 0x42, 0x42, 0xB1, 0x02,
    0x85, 0x43, 0x0A, 0x43, 0x42, 0xB1, 0x02, 0x85, 0x44, 0x0A, 0x44, 0x42, 0xB1, 0x02, 0xC0]

def NX.reportDescriptor : List UInt8 :=
  [0x05, 0x01, 0x09, 0x05, 0xA1, 0x01, 0x15, 0x00, 0x25, 0x01, 0x35, 0x00, 0x45, 0x01, 0x75, 0x01,
    0x95, 0x10, 0x05, 0x09, 0x19, 0x01, 0x29, 0x10, 0x81, 0x02, 0x05, 0x01, 0x25, 0x07,
    0x46, 0x3B, 0x01, 0x75, 0x04, 0x95, 0x01, 0x65, 0x14, 0x09, 0x39, 0x81, 0x42, 0x65, 0x00,
    0x95, 0x01, 0x81, 0x01, 0x26, 0xFF, 0x00, 0x46, 0xFF, 0x00, 0x09, 0x30, 0x09, 0x31,
    0x09, 0x32, 0x09, 0x35, 0x75, 0x08, 0x95, 0x04, 0x81, 0x02, 0x06, 0x00, 0xFF, 0x09, 0x20,
    0x95, 0x01, 0x81, 0x02, 0x0A, 0x21, 0x26, 0x95, 0x08, 0x91, 0x02, 0xC0] ++
  plHidReportDescriptor

def PS3.reportDescriptor : List UInt8 :=
  [0x05, 0x01, 0x09, 0x05, 0xA1, 0x01, 0x15, 0x00, 0x25, 0x01, 0x35, 0x00, 0x45, 0x01, 0x75, 0x01,
    0x95, 0x0D, 0x05, 0x09, 0x19, 0x01, 0x29, 0x0D, 0x81, 0x02, 0x95, 0x03, 0x81, 0x01,
    0x05, 0x01, 0x25, 0x07, 0x46, 0x3B, 0x01, 0x75, 0x04, 0x95, 0x01, 0x65, 0x14, 0x09, 0x39,
    0x81, 0x42, 0x65, 0x00, 0x95, 0x01, 0x81, 0x01, 0x26, 0xFF, 0x00, 0x46, 0xFF, 0x00,
    0x09, 0x30, 0x09, 0x31, 0x09, 0x32, 0x09, 0x35, 0x75, 0x08, 0x95, 0x04, 0x81, 0x02,
    0x06, 0x00, 0xFF, 0x09, 0x20, 0x09, 0x21, 0x09, 0x22, 0x09, 0x23, 0x09, 0x24, 0x09, 0x25,
    0x09, 0x26, 0x09, 0x27, 0x09, 0x28, 0x09, 0x29, 0x09, 0x2A, 0x09, 0x2B, 0x95, 0x0C,
    0x81, 0x02, 0x0A, 0x21, 0x26, 0x95, 0x08, 0xB1, 0x02, 0x0A, 0x21, 0x26, 0x91, 0x02,
    0x26, 0xFF, 0x03, 0x46, 0xFF, 0x03, 0x09, 0x2C, 0x09, 0x2D, 0x09, 0x2E, 0x09, 0x2F,
    0x75, 0x10, 0x95, 0x04, 0x81, 0x02, 0xC0] ++ plHidReportDescriptor

def PS4.reportDescriptor : List UInt8 :=
  [0x05, 0x01, 0x09, 0x05, 0xA1, 0x01, 0x85, 0x01, 0x09, 0x30, 0x09, 0x31, 0x09, 0x32, 0x09, 0x35,
    0x15, 0x00, 0x26, 0xFF, 0x00, 0x75, 0x08, 0x95, 0x04, 0x81, 0x02, 0x09, 0x39, 0x15, 0x00,
    0x25, 0x07, 0x35, 0x00, 0x46, 0x3B, 0x01, 0x65, 0x14, 0x75, 0x04, 0x95, 0x01, 0x81, 0x42,
    0x65, 0x00, 0x05, 0x09, 0x19, 0x01, 0x29, 0x0E, 0x15, 0x00, 0x25, 0x01, 0x75, 0x01,
    0x95, 0x0E, 0x81, 0x02, 0x06, 0x00, 0xFF, 0x09, 0x20, 0x75, 0x06, 0x95, 0x01, 0x81, 0x02,
    0x05, 0x01, 0x09, 0x33, 0x09, 0x34, 0x15, 0x00, 0x26, 0xFF, 0x00, 0x75, 0x08, 0x95, 0x02,
    0x81, 0x02, 0x06, 0x00, 0xFF, 0x09, 0x21, 0x95, 0x36, 0x81, 0x02, 0x85, 0x05, 0x09, 0x22,
    0x95, 0x1F, 0x91, 0x02, 0x85, 0x03, 0x0A, 0x21, 0x27, 0x95, 0x2F, 0xB1, 0x02, 0xC0,
    0x06, 0xF0, 0xFF, 0x09, 0x40, 0xA1, 0x01, 0x85, 0xF0, 0x09, 0x47, 0x95, 0x3F, 0xB1, 0x02,
    0x85, 0xF1, 0x09, 0x48, 0x95, 0x3F, 0xB1, 0x02, 0x85, 0xF2, 0x09, 0x49, 0x95, 0x0F,
    0xB1, 0x02, 0x85, 0xF3, 0x0A, 0x01, 0x47, 0x95, 0x07, 0xB1, 0x02, 0xC0]

/-! ### The identifiers

Whether a console takes the first byte of an input report for its identifier. All three descriptors
declare identifiers, two of them only for the feature reports of `PL_HID_REPORT_DESCRIPTOR`: the
Switch and the PS3 are taken to read their input reports without one. -/

def NX.numbered : Bool := false

def PS3.numbered : Bool := false

def PS4.numbered : Bool := true

/-! ### The usages -/

/-- Button k of the page of buttons. -/
def buttonNumber : OutputButton → Nat
  | .west => 1
  | .south => 2
  | .east => 3
  | .north => 4
  | .l1 => 5
  | .r1 => 6
  | .l2 => 7
  | .r2 => 8
  | .select => 9
  | .start => 10
  | .l3 => 11
  | .r3 => 12
  | .home => 13
  | .touchpad => 14

/-- The usages of the fields that carry the input: the buttons, X, Y, Z, Rz and the hat switch. -/
def Member.usage : Member → Option Usage
  | .button btn => some (0x09, buttonNumber btn)
  | .leftStickX => some (0x01, 0x30)
  | .leftStickY => some (0x01, 0x31)
  | .rightStickX => some (0x01, 0x32)
  | .rightStickY => some (0x01, 0x35)
  | .dpad => some (0x01, 0x39)
  | _ => none

/-- The descriptor and the record have the fields at the same places. -/
structure Describes (descriptor : List UInt8) (numbered : Bool) (reportId : Nat)
    (layout : Layout Member) (size : Nat) (buttons : List OutputButton) : Prop where
  unnumbered : numbered = false → reportId = 0
  identified : numbered = true → layout.locate .reportId = some (0, 8)
  size : reportBytes descriptor numbered .input reportId = size
  fields : ∀ m usage, m.usage = some usage → (∀ btn, m = .button btn → btn ∈ buttons) →
    ∃ offset width, (report descriptor .input reportId).locate (some usage) = some (offset, width) ∧
      layout.locate m = some (ahead numbered + offset, width) ∧ fieldWidth layout m = some width
  hat : logicalRange descriptor .input reportId (0x01, 0x39) = some (0, 7)

/-- What a host reads that goes by the descriptor and, if it expects one, the identifier in the
first byte. The hat switch is in its range exactly if it has a direction. -/
structure HostReads (descriptor : List UInt8) (numbered : Bool) (buttons : List OutputButton)
    (input : InputState) (bytes : List UInt8) : Prop where
  size : bytes.length = reportBytes descriptor numbered .input (received numbered bytes).1
  button : ∀ btn ∈ buttons,
    readField descriptor numbered bytes (0x09, buttonNumber btn) = some (input.button btn).toNat
  leftStickX : readField descriptor numbered bytes (0x01, 0x30) = some input.leftStickX.toNat
  leftStickY : readField descriptor numbered bytes (0x01, 0x31) = some input.leftStickY.toNat
  rightStickX : readField descriptor numbered bytes (0x01, 0x32) = some input.rightStickX.toNat
  rightStickY : readField descriptor numbered bytes (0x01, 0x35) = some input.rightStickY.toNat
  hat : ∃ code low high, readField descriptor numbered bytes (0x01, 0x39) = some code ∧
    logicalRange descriptor .input (received numbered bytes).1 (0x01, 0x39) = some (low, high) ∧
    (low ≤ code ∧ code ≤ high ↔ input.dpad ≠ .neutral) ∧ dpadOf code = input.dpad

theorem reply_take {buf : List UInt8} (full : buf.length = 64) (input : InputState)
    (encode : InputState → List UInt8) :
    ((getInputReport 1 buf (some input) encode).2.take (encode input).length) = encode input := by
  have written := slice_overwrite_same (encode input) (Nat.zero_le buf.length)
  rw [slice, List.drop_zero] at written
  rw [getInputReport_accepted full]
  exact written

theorem Describes.host_reads {descriptor : List UInt8} {numbered : Bool} {reportId : Nat}
    {layout : Layout Member} {size : Nat} {buttons : List OutputButton}
    (describes : Describes descriptor numbered reportId layout size buttons)
    (carries : Carries layout buttons) (bytes : layout.width = 8 * size) {neutral : Nat}
    (wide : neutral < 16) (beyond : 7 < neutral) {other : Member → Nat}
    (named : numbered = true → other .reportId % 2 ^ 8 = reportId) (input : InputState) :
    HostReads descriptor numbered buttons input
      (littleEndian size (pack (outputReport neutral other input) layout)) := by
  have below := pack_lt (outputReport neutral other input) layout
  rw [bytes, Nat.pow_mul] at below
  have record := ofBytes_littleEndian below
  have identified : (received numbered (littleEndian size
      (pack (outputReport neutral other input) layout))).1 = reportId := by
    cases numbered with
    | false => exact (describes.unnumbered rfl).symm
    | true => exact (received_pack record (describes.identified rfl)).trans (named rfl)
  have reads {m : Member} {usage : Usage} {width : Nat} (known : m.usage = some usage)
      (there : ∀ btn, m = .button btn → btn ∈ buttons) (wide : fieldWidth layout m = some width) :
      readField descriptor numbered
        (littleEndian size (pack (outputReport neutral other input) layout)) usage =
        some (outputReport neutral other input m % 2 ^ width) := by
    obtain ⟨offset, width', declared, located, width_eq⟩ := describes.fields m usage known there
    cases wide.symm.trans width_eq
    exact readField_pack record identified declared located
  have bit (pressed : Bool) : pressed.toNat % 2 ^ 1 = pressed.toNat := by cases pressed <;> rfl
  have byte (value : UInt8) : value.toNat % 2 ^ 8 = value.toNat := Nat.mod_eq_of_lt value.toNat_lt
  constructor
  · rw [identified, length_littleEndian, describes.size]
  · intro btn member
    have wide := carries.button btn
    rw [if_pos member] at wide
    have there (btn' : OutputButton) (same : Member.button btn = .button btn') : btn' ∈ buttons := by
      cases same
      exact member
    exact (reads (m := .button btn) rfl there wide).trans (congrArg some (bit _))
  · exact (reads (m := .leftStickX) rfl (fun _ other => by cases other) carries.leftStickX).trans
      (congrArg some (byte _))
  · exact (reads (m := .leftStickY) rfl (fun _ other => by cases other) carries.leftStickY).trans
      (congrArg some (byte _))
  · exact (reads (m := .rightStickX) rfl (fun _ other => by cases other) carries.rightStickX).trans
      (congrArg some (byte _))
  · exact (reads (m := .rightStickY) rfl (fun _ other => by cases other) carries.rightStickY).trans
      (congrArg some (byte _))
  · refine ⟨_, 0, 7, reads (m := .dpad) rfl (fun _ other => by cases other) carries.dpad,
      identified ▸ describes.hat, ?_, dpadOf_dpadCode wide beyond input.dpad⟩
    change 0 ≤ dpadCode neutral input.dpad % 2 ^ 4 ∧ dpadCode neutral input.dpad % 2 ^ 4 ≤ 7 ↔ _
    cases dpad : input.dpad with
    | neutral =>
        have same : neutral % 2 ^ 4 = neutral := Nat.mod_eq_of_lt wide
        simp only [dpadCode, same]
        exact iff_of_false (fun inside => Nat.not_le.mpr beyond inside.2) fun differ => differ rfl
    | _ => exact iff_of_true ⟨Nat.zero_le _, Nat.le_of_ble_eq_true rfl⟩ fun same => by cases same

/-! ### The three descriptors -/

/-- The fields of some usages, one after the other and of one width. -/
def usages (page width : Nat) (numbers : List Nat) : Layout (Option Usage) :=
  numbers.map fun number => (some (page, number), width)

theorem NX.input_fields :
    report NX.reportDescriptor .input 0 =
      usages 0x09 1 (List.range' 1 16) ++ usages 0x01 4 [0x39] ++ [(none, 4)] ++
        usages 0x01 8 [0x30, 0x31, 0x32, 0x35] ++ usages 0xFF00 8 [0x20] := by
  decide +kernel

theorem PS3.input_fields :
    report PS3.reportDescriptor .input 0 =
      usages 0x09 1 (List.range' 1 13) ++ List.replicate 3 (none, 1) ++ usages 0x01 4 [0x39] ++
        [(none, 4)] ++ usages 0x01 8 [0x30, 0x31, 0x32, 0x35] ++
        usages 0xFF00 8 (List.range' 0x20 12) ++ usages 0xFF00 16 (List.range' 0x2C 4) := by
  decide +kernel

theorem PS4.input_fields :
    report PS4.reportDescriptor .input 1 =
      usages 0x01 8 [0x30, 0x31, 0x32, 0x35] ++ usages 0x01 4 [0x39] ++
        usages 0x09 1 (List.range' 1 14) ++ usages 0xFF00 6 [0x20] ++
        usages 0x01 8 [0x33, 0x34] ++ usages 0xFF00 8 (List.replicate 54 0x21) := by
  decide +kernel

theorem NX.describes : Describes NX.reportDescriptor false 0 NX.layout 8 allButtons where
  unnumbered := fun _ => rfl
  identified := fun numbered => nomatch numbered
  size := by
    rw [reportBytes, NX.input_fields]
    rfl
  fields := by
    intro m usage known there
    rw [NX.input_fields]
    cases m with
    | button btn =>
        cases known
        cases btn <;> exact ⟨_, _, rfl, rfl, rfl⟩
    | leftStickX | leftStickY | rightStickX | rightStickY | dpad =>
        cases known
        exact ⟨_, _, rfl, rfl, rfl⟩
    | _ => cases known
  hat := by decide +kernel

theorem PS3.describes : Describes PS3.reportDescriptor false 0 PS3.layout 27 commonButtons where
  unnumbered := fun _ => rfl
  identified := fun numbered => nomatch numbered
  size := by
    rw [reportBytes, PS3.input_fields]
    rfl
  fields := by
    intro m usage known there
    rw [PS3.input_fields]
    cases m with
    | button btn =>
        cases known
        have member := there btn rfl
        cases btn with
        | touchpad => exact absurd member (by decide)
        | _ => exact ⟨_, _, rfl, rfl, rfl⟩
    | leftStickX | leftStickY | rightStickX | rightStickY | dpad =>
        cases known
        exact ⟨_, _, rfl, rfl, rfl⟩
    | _ => cases known
  hat := by decide +kernel

theorem PS4.describes : Describes PS4.reportDescriptor true 1 PS4.layout 64 allButtons where
  unnumbered := fun unnumbered => nomatch unnumbered
  identified := fun _ => rfl
  size := by
    rw [reportBytes, PS4.input_fields]
    rfl
  fields := by
    intro m usage known there
    rw [PS4.input_fields]
    cases m with
    | button btn =>
        cases known
        cases btn <;> exact ⟨_, _, rfl, rfl, rfl⟩
    | leftStickX | leftStickY | rightStickX | rightStickY | dpad =>
        cases known
        exact ⟨_, _, rfl, rfl, rfl⟩
    | _ => cases known
  hat := by decide +kernel

/-- What is sent of a buffer, by what `GetReport` has returned. -/
def sent (reply : Int × List UInt8) : List UInt8 := reply.2.take reply.1.toNat

theorem sent_report {buf : List UInt8} (full : buf.length = 64) (input : InputState)
    (encode : InputState → List UInt8) :
    sent (getInputReport 1 buf (some input) encode) = encode input := by
  have count : (getInputReport 1 buf (some input) encode).1.toNat = (encode input).length := by
    rw [getInputReport_accepted full]
    exact Int.toNat_natCast _
  rw [sent, count]
  exact reply_take full input encode

section Decodes
variable (input : InputState) {buf : List UInt8} (full : buf.length = 64)
include full

theorem NX.decodes :
    HostReads NX.reportDescriptor NX.numbered allButtons input
      (sent (NX.getInputReport 1 buf (some input))) := by
  rw [NX.getInputReport, sent_report full]
  exact NX.describes.host_reads carriesNX rfl (by decide) (by decide)
    (fun numbered => nomatch numbered) input

theorem PS3.decodes :
    HostReads PS3.reportDescriptor PS3.numbered commonButtons input
      (sent (PS3.getInputReport 1 buf (some input))) := by
  rw [PS3.getInputReport, sent_report full]
  exact PS3.describes.host_reads carriesPS3 rfl (by decide) (by decide)
    (fun numbered => nomatch numbered) input

theorem PS4.decodes (lastReportCounter : UInt8) (touchpadData : TouchpadData) :
    HostReads PS4.reportDescriptor PS4.numbered allButtons input
      (sent (PS4.getInputReport lastReportCounter 1 buf (some input) touchpadData).1) := by
  rw [PS4.getInputReport, sent_report full]
  exact PS4.describes.host_reads carriesPS4 rfl (by decide) (by decide) (fun _ => rfl) input

end Decodes

/-- A host that goes by the descriptor of its type, and by the identifier in the report if it
expects one, reads in the reports for every input what was sent, and the reports have the lengths
that the descriptors give them. -/
theorem descriptors_decode (input : InputState) (lastReportCounter : UInt8)
    (touchpadData : TouchpadData) {buf : List UInt8} (full : buf.length = 64) :
    let nx := NX.getInputReport 1 buf (some input)
    let ps3 := PS3.getInputReport 1 buf (some input)
    let ps4 := (PS4.getInputReport lastReportCounter 1 buf (some input) touchpadData).1
    HostReads NX.reportDescriptor NX.numbered allButtons input (sent nx) ∧
      HostReads PS3.reportDescriptor PS3.numbered commonButtons input (sent ps3) ∧
      HostReads PS4.reportDescriptor PS4.numbered allButtons input (sent ps4) :=
  ⟨NX.decodes input full, PS3.decodes input full,
    PS4.decodes input full lastReportCounter touchpadData⟩

def untouched : TouchpadData := ⟨⟨0, true, [0, 0, 0]⟩, ⟨0, true, [0, 0, 0]⟩⟩

/-- The button of the touchpad on a host that reads the report of the PS4. -/
theorem touchpad_decodes :
    let pressed : InputState :=
      { InputState.neutral untouched with button := fun btn => btn = .touchpad }
    let ps4 := (PS4.getInputReport 3 1 (List.replicate 64 0) (some pressed) untouched).1
    readField PS4.reportDescriptor PS4.numbered (ps4.2.take ps4.1.toNat) (0x09, 14) = some 1 ∧
      readField PS4.reportDescriptor PS4.numbered (ps4.2.take ps4.1.toNat) (0x09, 13) = some 0 := by
  intro pressed ps4
  obtain ⟨-, -, reads⟩ := descriptors_decode pressed 3 untouched
    (List.length_replicate : (List.replicate 64 (0 : UInt8)).length = 64)
  exact ⟨reads.button .touchpad (by decide), reads.button .home (by decide)⟩

end PassingLink.Output
