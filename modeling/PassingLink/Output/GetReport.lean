import PassingLink.Lib.Text
import PassingLink.Memory.Provisioning
import PassingLink.Output.Pump
import PassingLink.Ps4.Atomicity

/-! `get_report` of `hid.cpp`: requests to read a report, which go to the reports that all HIDs
share and then to the active HID. -/
namespace PassingLink.Output
open Input Lib
open Ps4 (Auth Env HidReportType MbedResult Shared)
open Memory (Firmware)

/-- `none` is a report type that does not exist. -/
def decodeHidReportValue (value : UInt16) : Option (Option HidReportType × UInt8) :=
  let type := (value >>> 8).toUInt8
  let id := value.toUInt8
  if type = 0 then some (none, id)
  else if type = 1 then some (some .input, id)
  else if type = 2 then some (some .output, id)
  else if type = 3 then some (some .feature, id)
  else none

/-- A return value of -1 is a failure; a write outside the buffer makes the list longer. -/
abbrev Reading := Int × List UInt8

def getReportPL (fw : Firmware) (versionString : CString) (reportType : Option HidReportType)
    (reportId : UInt8) (buf : List UInt8) : Option Reading :=
  if reportType ≠ some .feature then none
  else if reportId = 0x40 then
    let len := min buf.length versionString.length
    some (len, overwrite buf 0 (versionString.chars.take len))
  else if reportId = 0x42 then
    some (1, overwrite buf 0 [if fw.runtimeProvisioning then 1 else 0])
  else none

namespace NX

def getFeatureReport (reportId : UInt8) (buf : List UInt8) : Reading :=
  (-1, overwrite buf 0 [reportId])

end NX

namespace PS3

/-- `"!&\x02\x04\x00\x00\x00\x00"` -/
def feature0x00 : List UInt8 := [0x21, 0x26, 0x02, 0x04, 0x00, 0x00, 0x00, 0x00]

def getFeatureReport (reportId : UInt8) (buf : List UInt8) : Reading :=
  let written := overwrite buf 0 [reportId]
  if reportId = 0 then
    if buf.length < 8 then (-1, written) else (8, overwrite written 0 feature0x00)
  else (-1, written)

end PS3

/-- `GetReport` of the active HID. The input reports are those of `Pump.getInputReport`, from what
the poll `p` reads. -/
def hidGetReport (env : Env) (b : Board) (s : Pump) (p : Poll) (reportType : Option HidReportType)
    (reportId : UInt8) (buf : List UInt8) : Auth Reading :=
  match reportType with
  | none => return (-1, buf)
  | some .feature =>
      match s.hid with
      | .nx => return NX.getFeatureReport reportId buf
      | .ps3 => return PS3.getFeatureReport reportId buf
      | .ps4 => Ps4.getFeatureReport env reportId buf
  | some .input => return (s.getInputReport b reportId buf p).1
  | some .output => return (-1, buf)

/-- The return value of the callback, `*len` and the buffer. -/
structure Answer where
  rc : Int
  len : Int
  buf : List UInt8

def getReportAnswer (buf : List UInt8) (result : Reading) : Answer :=
  if result.1 ≠ -1 then ⟨0, result.1, result.2⟩ else ⟨-1, buf.length, result.2⟩

/-- `ops.get_report` with a buffer of the requested length. -/
def getReport (fw : Firmware) (versionString : CString) (env : Env) (b : Board) (s : Pump)
    (p : Poll) (value : UInt16) (buf : List UInt8) : Auth Answer :=
  match decodeHidReportValue value with
  | none => return ⟨-1, buf.length, buf⟩
  | some (reportType, reportId) =>
      match getReportPL fw versionString reportType reportId buf with
      | some result => return getReportAnswer buf result
      | none => do
          let result ← hidGetReport env b s p reportType reportId buf
          return getReportAnswer buf result

/-- A buffer of `n` bytes has not grown, and the callback fails or reports `n` bytes at most. -/
structure StaysInside (n : Nat) (answer : Answer) : Prop where
  writes : answer.buf.length = n
  reports : answer.rc = -1 ∨ answer.rc = 0 ∧ 0 ≤ answer.len ∧ answer.len ≤ n

/-- The requests whose handler writes the first byte without looking at the length. -/
def writesFirstByte (value : UInt16) : Bool :=
  match decodeHidReportValue value with
  | some (some .feature, reportId) => reportId ≠ 0x40
  | _ => false

/-! ### How far the handlers write -/

/-- A reading of a buffer of `n` bytes, as far as its handler is concerned. -/
structure Bounded (n : Nat) (result : Reading) : Prop where
  writes : result.2.length = n
  reports : result.1 = -1 ∨ 0 ≤ result.1 ∧ result.1 ≤ n

section Bounds
variable {buf : List UInt8}

theorem bounded_failure (buf : List UInt8) : Bounded buf.length (-1, buf) := ⟨rfl, Or.inl rfl⟩

/-- `buf[0] = report_id` writes a byte, also where there is none. -/
theorem length_first (buf : List UInt8) (reportId : UInt8) :
    (overwrite buf 0 [reportId]).length = max 1 buf.length := by
  rw [overwrite, List.take_zero, List.nil_append, List.length_append, List.length_drop,
    List.length_singleton]
  omega

theorem bounded_writeWithCrc (env : Env) (dst src : List UInt8) :
    Bounded dst.length (Ps4.writeWithCrc env dst src) := by
  unfold Ps4.writeWithCrc
  split
  · exact bounded_failure dst
  · rename_i roomy
    have first : 0 + src.length ≤ dst.length := by omega
    have second : src.length + (Ps4.crcBytes (env.crc32Ieee src)).length ≤
        (overwrite dst 0 src).length := by
      rw [length_overwrite first, Ps4.length_crcBytes]
      omega
    refine ⟨(length_overwrite second).trans (length_overwrite first), Or.inr ?_⟩
    dsimp only
    omega

theorem bounded_getInputReport {encode : InputState → List UInt8}
    (small : ∀ input, (encode input).length ≤ 64) (reportId : UInt8) (input : Option InputState) :
    Bounded buf.length (Output.getInputReport reportId buf input encode) := by
  unfold Output.getInputReport
  split
  · split
    · exact bounded_failure buf
    · rename_i full
      cases input with
      | none => exact bounded_failure buf
      | some input =>
          have fits : 0 + (encode input).length ≤ buf.length := by
            have size := small input
            omega
          refine ⟨length_overwrite fits, Or.inr ?_⟩
          dsimp only
          omega
  · exact bounded_failure buf

theorem bounded_input (b : Board) (s : Pump) (reportId : UInt8) (buf : List UInt8) (p : Poll) :
    Bounded buf.length (s.getInputReport b reportId buf p).1 := by
  have small (n x : Nat) (low : n ≤ 64) : (littleEndian n x).length ≤ 64 := by
    rwa [length_littleEndian]
  unfold Pump.getInputReport
  cases s.hid with
  | nx =>
      exact @bounded_getInputReport buf NX.encode (fun _ => small 8 _ (by decide)) reportId
        (some (inputGetState b s.device p).out)
  | ps3 =>
      exact @bounded_getInputReport buf PS3.encode (fun _ => small 27 _ (by decide)) reportId
        (some (inputGetState b s.device p).out)
  | ps4 =>
      exact @bounded_getInputReport buf (PS4.encode _ _) (fun _ => small 64 _ (by decide)) reportId
        (some (inputGetState b s.device p).out)

theorem bounded_getSignature (env : Env) (buf : List UInt8) :
    Prog.Always (Bounded buf.length) (Ps4.getSignature env buf) := by
  intro (state : Ps4.AuthState)
  change Prog.Always _ (if state.type ≠ .sendingSignature then (return (-1, buf))
    else if buf.length ≠ 64 then (return (-1, buf))
    else Ps4.getNextSignatureChunk env 56 >>= fun chunk => .ret (Ps4.sendChunk env state buf chunk))
  split
  · exact bounded_failure buf
  split
  · exact bounded_failure buf
  refine Prog.always_bind (Prog.always_true _) fun chunk _ => ?_
  cases chunk with
  | none => exact bounded_failure buf
  | some chunk => exact bounded_writeWithCrc env buf _

theorem bounded_ps4Feature (env : Env) (reportId : UInt8) (buf : List UInt8) :
    Prog.Always (Bounded (max 1 buf.length)) (Ps4.getFeatureReport env reportId buf) := by
  rw [← length_first buf reportId]
  unfold Ps4.getFeatureReport
  generalize overwrite buf 0 [reportId] = buf
  dsimp only
  split
  · split
    · exact bounded_failure buf
    · rename_i size
      have size : buf.length = Ps4.output0x03.length := Decidable.not_not.mp size
      exact ⟨size.symm, Or.inr ⟨Int.natCast_nonneg _, le_refl _⟩⟩
  split
  · split
    · exact bounded_getSignature env buf
    · exact bounded_failure buf
  split
  · split
    · exact fun _ => bounded_writeWithCrc env buf _
    · exact bounded_failure buf
  split
  · split
    · exact bounded_failure buf
    · rename_i size
      have size : buf.length = Ps4.output0xF3.length := Decidable.not_not.mp size
      exact ⟨size.symm, Or.inr ⟨Int.natCast_nonneg _, le_refl _⟩⟩
  · exact bounded_failure buf

theorem bounded_ps3Feature (reportId : UInt8) (buf : List UInt8) :
    Bounded (max 1 buf.length) (PS3.getFeatureReport reportId buf) := by
  have first := length_first buf reportId
  unfold PS3.getFeatureReport
  dsimp only
  split
  · split
    · exact ⟨first, Or.inl rfl⟩
    · rename_i roomy
      have wide : 8 ≤ max 1 buf.length := by omega
      have fits : 0 + PS3.feature0x00.length ≤ (overwrite buf 0 [reportId]).length := by
        rwa [first]
      exact ⟨(length_overwrite fits).trans first, Or.inr ⟨by omega, Int.ofNat_le.mpr wide⟩⟩
  · exact ⟨first, Or.inl rfl⟩

theorem bounded_nxFeature (reportId : UInt8) (buf : List UInt8) :
    Bounded (max 1 buf.length) (NX.getFeatureReport reportId buf) :=
  ⟨length_first buf reportId, Or.inl rfl⟩

theorem bounded_feature (env : Env) (b : Board) (s : Pump) (p : Poll) (reportId : UInt8)
    (buf : List UInt8) :
    Prog.Always (Bounded (max 1 buf.length))
      (hidGetReport env b s p (some .feature) reportId buf) := by
  simp only [hidGetReport]
  cases s.hid with
  | nx => exact bounded_nxFeature reportId buf
  | ps3 => exact bounded_ps3Feature reportId buf
  | ps4 => exact bounded_ps4Feature env reportId buf

theorem stays_of_bounded {n : Nat} {result : Reading} (bounded : Bounded n result) :
    StaysInside n (getReportAnswer buf result) := by
  unfold getReportAnswer
  split
  · rename_i succeeded
    rcases bounded.reports with failed | inside
    · exact absurd failed succeeded
    · exact ⟨bounded.writes, Or.inr ⟨rfl, inside⟩⟩
  · exact ⟨bounded.writes, Or.inl rfl⟩

end Bounds

section GetReport
variable {fw : Firmware} {versionString : CString} {env : Env} {b : Board} {s : Pump} {p : Poll}
  {value : UInt16} {buf : List UInt8}

/-- The reports that all HIDs share. -/
theorem bounded_version :
    Bounded buf.length ((min buf.length versionString.length : Nat),
      overwrite buf 0 (versionString.chars.take (min buf.length versionString.length))) := by
  have fits : 0 + (versionString.chars.take (min buf.length versionString.length)).length ≤
      buf.length := by
    rw [List.length_take]
    omega
  exact ⟨length_overwrite fits, Or.inr ⟨Int.natCast_nonneg _, by dsimp only; omega⟩⟩

theorem bounded_provisioningVersion (version : UInt8) :
    Bounded (max 1 buf.length) (1, overwrite buf 0 [version]) := by
  refine ⟨length_first buf version, Or.inr ⟨Int.le_of_lt Int.zero_lt_one, ?_⟩⟩
  dsimp only
  omega

theorem getReport_stays :
    Prog.Always (StaysInside (if writesFirstByte value then max 1 buf.length else buf.length))
      (getReport fw versionString env b s p value buf) := by
  unfold getReport writesFirstByte
  cases decodeHidReportValue value with
  | none => exact ⟨rfl, Or.inl rfl⟩
  | some decoded =>
      obtain ⟨reportType, reportId⟩ := decoded
      cases reportType with
      | none => exact ⟨rfl, Or.inl rfl⟩
      | some reportType =>
          cases reportType with
          | output => exact ⟨rfl, Or.inl rfl⟩
          | input => exact stays_of_bounded (bounded_input b s reportId buf p)
          | feature =>
              simp only [getReportPL, ne_eq, not_true_eq_false, if_false, decide_not,
                Bool.not_eq_true', decide_eq_false_iff_not]
              by_cases version : reportId = 0x40
              · simp only [version, not_true_eq_false, if_false]
                exact stays_of_bounded bounded_version
              · simp only [version, not_false_eq_true, if_true]
                by_cases provisioning : reportId = 0x42
                · simp only [if_pos provisioning]
                  exact stays_of_bounded (bounded_provisioningVersion _)
                · simp only [if_neg provisioning]
                  exact Prog.always_bind (bounded_feature env b s p reportId buf)
                    fun result bounded => stays_of_bounded bounded

theorem copyChunk_within (env : Env) (current : Ps4.AuthState) (room : Nat) :
    Prog.Within 2 (Ps4.copyChunk env current room) := by
  intro nonceSignature
  simp only [Prog.bind]
  split
  · exact fun _ => trivial
  · intro swapped
    cases swapped <;> trivial

theorem getSignature_within (env : Env) (buf : List UInt8) :
    Prog.Within 4 (Ps4.getSignature env buf) := by
  intro (state : Ps4.AuthState)
  change Prog.Within 3 (if state.type ≠ .sendingSignature then (return (-1, buf))
    else if buf.length ≠ 64 then (return (-1, buf))
    else Ps4.getNextSignatureChunk env 56 >>= fun chunk => .ret (Ps4.sendChunk env state buf chunk))
  split
  · trivial
  split
  · trivial
  rw [Prog.within_map]
  intro (current : Ps4.AuthState)
  change Prog.Within 2 (if current.type ≠ .sendingSignature then (return none)
    else Ps4.copyChunk env current 56)
  split
  · trivial
  · exact copyChunk_within env current 56

theorem ps4Feature_within (env : Env) (reportId : UInt8) (buf : List UInt8) :
    Prog.Within 4 (Ps4.getFeatureReport env reportId buf) := by
  unfold Ps4.getFeatureReport
  dsimp only
  split
  · split <;> trivial
  split
  · split
    · exact getSignature_within env _
    · trivial
  split
  · split
    · exact fun _ => trivial
    · trivial
  split
  · split <;> trivial
  · trivial

theorem getReport_within :
    Prog.Within 4 (getReport fw versionString env b s p value buf) := by
  unfold getReport
  cases decodeHidReportValue value with
  | none => trivial
  | some decoded =>
      obtain ⟨reportType, reportId⟩ := decoded
      dsimp only
      cases getReportPL fw versionString reportType reportId buf with
      | some result => trivial
      | none =>
          refine (Prog.within_map _).mpr ?_
          unfold hidGetReport
          cases reportType with
          | none => trivial
          | some reportType =>
              cases reportType with
              | input => trivial
              | output => trivial
              | feature =>
                  dsimp only
                  cases s.hid with
                  | nx => trivial
                  | ps3 => trivial
                  | ps4 => exact ps4Feature_within env reportId buf

end GetReport

/-- A call of the callback beside the work item, from what both share on. -/
def getReportCall (fw : Firmware) (versionString : CString) (env : Env) (b : Board) (s : Pump)
    (p : Poll) (value : UInt16) (buf : List UInt8) (c : Shared × Auth Unit)
    (moves : List (Option MbedResult)) : Auth Answer × Shared × Auth Unit :=
  run (Prog.interleave (Ps4.callbackExec env) (Ps4.workStep env))
    (getReport fw versionString env b s p value buf, c) moves

/-- In every state and beside any moves of the work item the callback returns, and it keeps to the
requested length exactly if that is not zero or no handler writes the first byte without looking
at it. -/
theorem get_report_iff (fw : Firmware) (versionString : CString) (env : Env) (b : Board) (s : Pump)
    (p : Poll) (value : UInt16) (buf : List UInt8) (c : Shared × Auth Unit)
    (moves : List (Option MbedResult)) :
    (4 ≤ moves.countP Option.isNone →
      ∃ answer, (getReportCall fw versionString env b s p value buf c moves).1 = .ret answer) ∧
    ∀ answer, (getReportCall fw versionString env b s p value buf c moves).1 = .ret answer →
      (StaysInside buf.length answer ↔ (writesFirstByte value = true → buf ≠ [])) := by
  refine ⟨fun enough => Prog.within_returns getReport_within enough c, ?_⟩
  intro answer returned
  have stays := Prog.always_interleave getReport_stays returned
  cases first : writesFirstByte value with
  | false =>
      rw [first, if_neg Bool.false_ne_true] at stays
      exact iff_of_true stays fun absent => absurd absent Bool.false_ne_true
  | true =>
      rw [first, if_pos rfl] at stays
      cases buf with
      | nil =>
          refine iff_of_false ?_ fun filled => filled rfl rfl
          intro inside
          exact absurd (stays.writes.symm.trans inside.writes) (by decide)
      | cons byte rest =>
          have length : max 1 (byte :: rest).length = (byte :: rest).length := by
            rw [List.length_cons]
            omega
          rw [length] at stays
          exact iff_of_true stays fun _ => List.cons_ne_nil byte rest

/-- The version of the provisioning protocol, with no byte asked for: one is written, and
reported. -/
theorem provisioning_version_outside :
    ¬ ∀ (fw : Firmware) (versionString : CString) (env : Env) (b : Board) (s : Pump) (p : Poll)
      (value : UInt16) (buf : List UInt8) (moves : List (Option MbedResult)) (answer : Answer),
      (getReportCall fw versionString env b s p value buf (Shared.boot, .ret ()) moves).1 =
          .ret answer →
        StaysInside buf.length answer := by
  intro all
  have inside := all ⟨true, false, 4096⟩ CString.empty Ps4.exampleEnv microdash
    (Pump.init microdash .nx 22)
    ⟨none, RawInputState.released, RawInputState.released, 1000, 0⟩ 0x0342 [] [] ⟨0, 1, [1]⟩ rfl
  exact absurd inside.writes (by decide)

end PassingLink.Output
