import PassingLink.Output.GetReport
import PassingLink.Ps4.NonceReport

/-! `set_report` of `hid.cpp`: which requests to write a report are acknowledged, and what has been
done by then. -/
namespace PassingLink.Output
open Input Lib
open Ps4 (Auth Env HidReportType MbedResult Shared)
open Memory (Firmware FlashAnswer Provisioning Report flushMagic setReportPL)

/-- `SetReport` of the active HID; only the PS4 has one of its own. -/
def hidSetReport (env : Env) (hid : ProbeType) (reportType : Option HidReportType)
    (reportId : UInt8) (data : List UInt8) : Auth Bool :=
  match hid with
  | .nx | .ps3 => return false
  | .ps4 => Ps4.setReport env reportType reportId data

def setReportAnswer (p : Provisioning) (result : Bool) : Int × Provisioning :=
  (if result then 0 else -1, p)

/-- `ops.set_report`: its return value and the provisioning afterwards. -/
def setReport (fw : Firmware) (answer : FlashAnswer) (env : Env) (hid : ProbeType)
    (p : Provisioning) (value : UInt16) (data : List UInt8) : Auth (Int × Provisioning) :=
  match decodeHidReportValue value with
  | none => return (-1, p)
  | some (reportType, reportId) =>
      match setReportPL fw p answer reportType reportId data with
      | (some result, p) => return setReportAnswer p result
      | (none, p) => do
          let result ← hidSetReport env hid reportType reportId data
          return setReportAnswer p result

/-! ### What a request asks for -/

/-- A chunk of the provisioning data that is in its place, inside the buffer. -/
structure ChunkStored (report : Report) (p p' : Provisioning) : Prop where
  fits : report.Fits
  stored : ∀ i, p'.buffer[i]? =
    if report.write.covers i then report.payload[i - 62 * report.index]? else p.buffer[i]?
  extent : p'.length = max p.length report.write.stop

/-- What has been written so far is in the flash. -/
structure Flushed (fw : Firmware) (answer : FlashAnswer) (report : Report) (p p' : Provisioning) :
    Prop where
  magic : report.data.length = 5 ∧ report.data.drop 1 = flushMagic
  succeeded : answer.opened = 0 ∧ answer.erased = 0 ∧ answer.written = 0
  image : p'.flash = some (overwrite (List.replicate fw.flashAreaSize 0xff) 0
    (p.buffer.take p.length))

/-- The effect of a request, on the provisioning and on the state of the authentication. -/
inductive CarriedOut (fw : Firmware) (answer : FlashAnswer) (env : Env) (hid : ProbeType)
    (value : UInt16) (report : Report) (p p' : Provisioning) (s s' : Shared) : Prop
  | chunk : fw.runtimeProvisioning = true →
      decodeHidReportValue value = some (some .feature, 0x43) → ChunkStored report p p' →
      CarriedOut fw answer env hid value report p p' s s'
  | flush : fw.runtimeProvisioning = true →
      decodeHidReportValue value = some (some .feature, 0x44) → Flushed fw answer report p p' →
      CarriedOut fw answer env hid value report p p' s s'
  | nonce : hid = .ps4 → env.ps4Auth = true →
      decodeHidReportValue value = some (some .feature, 0xF0) →
      Ps4.NonceOutcome env report.data s true s' →
      CarriedOut fw answer env hid value report p p' s s'

/-- A nonce report in a build that has no use for it. -/
def NonceIgnored (env : Env) (hid : ProbeType) (value : UInt16) : Prop :=
  hid = .ps4 ∧ env.ps4Auth = false ∧ decodeHidReportValue value = some (some .feature, 0xF0)

section SetReport
variable {fw : Firmware} {answer : FlashAnswer} {env : Env} {hid : ProbeType} {value : UInt16}
  {report : Report} {p : Provisioning} {s : Shared}

theorem chunk_stored (enabled : fw.runtimeProvisioning = true) (full : p.buffer.length = 4096)
    {p' : Provisioning}
    (written : setReportPL fw p answer (some .feature) 0x43 report.data = (some true, p')) :
    ChunkStored report p p' := by
  have same : setReportPL fw p answer (some .feature) 0x43 report.data =
      Memory.writeProvisioning fw p report := by
    have other : ¬ (0x43 : UInt8) = 0x41 := by decide
    simp only [Memory.writeProvisioning, setReportPL, if_true, if_neg other, enabled, and_self]
  rw [same, Memory.writeProvisioning_eq enabled] at written
  split at written
  · rename_i fits
    obtain rfl := (Prod.ext_iff.mp written).2
    have stop : report.write.stop ≤ p.buffer.length := by
      rw [full]
      exact fits.2
    exact ⟨fits, Write.getElem?_apply stop, rfl⟩
  · cases written

theorem flush_done (enabled : fw.runtimeProvisioning = true) {p' : Provisioning}
    (written : setReportPL fw p answer (some .feature) 0x44 report.data = (some true, p')) :
    Flushed fw answer report p p' := by
  have reboot : ¬ (0x44 : UInt8) = 0x41 := by decide
  have chunk : ¬ (0x44 : UInt8) = 0x43 := by decide
  simp only [setReportPL, if_true, if_neg reboot, enabled, true_and, if_neg chunk] at written
  by_cases size : report.data.length ≠ 5
  · rw [if_pos size] at written
    cases written
  by_cases magic : report.data.drop 1 ≠ flushMagic
  · rw [if_neg size, if_pos magic] at written
    cases written
  rw [if_neg size, if_neg magic] at written
  obtain ⟨done, same⟩ := Prod.ext_iff.mp written
  obtain ⟨succeeded, image⟩ :=
    Memory.provisioningFlush_true (Prod.ext_iff.mpr ⟨Option.some.inj done, same⟩)
  exact ⟨⟨Decidable.not_not.mp size, Decidable.not_not.mp magic⟩, succeeded, image⟩

theorem shared_carriedOut (full : p.buffer.length = 4096) {reportType : Option HidReportType}
    {reportId : UInt8} (decoded : decodeHidReportValue value = some (reportType, reportId))
    {p' : Provisioning}
    (written : setReportPL fw p answer reportType reportId report.data = (some true, p')) :
    CarriedOut fw answer env hid value report p p' s s := by
  rcases Memory.setReportPL_cases fw p answer reportType reportId report.data with
    passed | ⟨_, refused⟩ | ⟨enabled, rfl, rfl | rfl, -⟩
  · cases passed.symm.trans written
  · cases refused.symm.trans written
  · exact .chunk enabled decoded (chunk_stored enabled full written)
  · exact .flush enabled decoded (flush_done enabled written)

theorem shared_nonce (fw : Firmware) (p : Provisioning) (answer : FlashAnswer) (data : List UInt8) :
    setReportPL fw p answer (some .feature) 0xF0 data = (none, p) := by
  have reboot : ¬ (0xF0 : UInt8) = 0x41 := by decide
  have chunk : ¬ (0xF0 : UInt8) = 0x43 := by decide
  have flush : ¬ (0xF0 : UInt8) = 0x44 := by decide
  simp only [setReportPL, if_true, if_neg reboot, chunk, flush, and_false, if_false]

/-- What the callback answers, from the state `s` on, and whether that is true. -/
structure SetOutcome (fw : Firmware) (answer : FlashAnswer) (env : Env) (hid : ProbeType)
    (value : UInt16) (report : Report) (p : Provisioning) (s : Shared)
    (result : (Int × Provisioning) × Shared) : Prop where
  code : result.1.1 = 0 ∨ result.1.1 = -1
  honest : (result.1.1 = 0 →
      CarriedOut fw answer env hid value report p result.1.2 s result.2) ↔
    ¬ NonceIgnored env hid value

theorem outcome_refused (decided : ¬ NonceIgnored env hid value) (p' : Provisioning) (s' : Shared) :
    SetOutcome fw answer env hid value report p s (setReportAnswer p' false, s') :=
  ⟨Or.inr rfl,
    iff_of_true (fun accepted => absurd accepted (show ¬ (-1 : Int) = 0 by decide)) decided⟩

theorem not_carriedOut (ignored : NonceIgnored env hid value) {p' : Provisioning} {s' : Shared} :
    ¬ CarriedOut fw answer env hid value report p p' s s' := by
  obtain ⟨-, off, decoded⟩ := ignored
  rintro (⟨-, asked, -⟩ | ⟨-, asked, -⟩ | ⟨-, on, -, -⟩)
  · exact absurd (decoded.symm.trans asked) (by decide)
  · exact absurd (decoded.symm.trans asked) (by decide)
  · exact absurd (off.symm.trans on) (by decide)

/-- The nonce reports of the PS4. -/
theorem nonce_setOutcome (size : s.nonce.length = 256)
    (decoded : decodeHidReportValue value = some (some .feature, 0xF0)) :
    SetOutcome fw answer env .ps4 value report p s
      (setReportAnswer p
        ((Ps4.setReport env (some .feature) 0xF0 report.data).finish (Ps4.exec env .success) s).1,
        ((Ps4.setReport env (some .feature) 0xF0 report.data).finish (Ps4.exec env .success) s).2)
      := by
  cases auth : env.ps4Auth with
  | true =>
      have outcome := Ps4.nonce_outcome auth size report.data
      have used : ¬ NonceIgnored env .ps4 value := by
        rintro ⟨-, off, -⟩
        exact absurd (auth.symm.trans off) (by decide)
      generalize (Ps4.setReport env (some .feature) 0xF0 report.data).finish
        (Ps4.exec env .success) s = result at outcome
      obtain ⟨accepted, s'⟩ := result
      cases accepted with
      | true =>
          exact ⟨Or.inl rfl, iff_of_true (fun _ => .nonce rfl auth decoded outcome) used⟩
      | false => exact outcome_refused used p s'
  | false =>
      have accepts : Ps4.setReport env (some .feature) 0xF0 report.data = .ret true := by
        simp only [Ps4.setReport, ne_eq, not_true_eq_false, if_false, if_true, auth, Bool.not_false]
        rfl
      rw [accepts]
      have ignored : NonceIgnored env .ps4 value := ⟨rfl, auth, decoded⟩
      exact ⟨Or.inl rfl, iff_of_false (fun honest => not_carriedOut ignored (honest rfl))
        (not_not_intro ignored)⟩

theorem hidSetReport_other {reportType : Option HidReportType} {reportId : UInt8}
    (other : ¬ (hid = .ps4 ∧ reportType = some .feature ∧ reportId = 0xF0)) (data : List UInt8) :
    hidSetReport env hid reportType reportId data = .ret false := by
  unfold hidSetReport
  cases hid with
  | nx => rfl
  | ps3 => rfl
  | ps4 =>
      dsimp only [Ps4.setReport]
      by_cases feature : reportType = some .feature
      · have otherId : ¬ reportId = 0xF0 := fun nonce => other ⟨rfl, feature, nonce⟩
        rw [if_neg (not_not_intro feature), if_neg otherId]
        rfl
      · rw [if_pos feature]
        rfl

theorem setReport_outcome (full : p.buffer.length = 4096) (size : s.nonce.length = 256) :
    SetOutcome fw answer env hid value report p s
      ((setReport fw answer env hid p value report.data).finish (Ps4.exec env .success) s) := by
  unfold setReport
  cases decoded : decodeHidReportValue value with
  | none =>
      refine outcome_refused ?_ p s
      rintro ⟨-, -, asked⟩
      cases decoded.symm.trans asked
  | some request =>
      obtain ⟨reportType, reportId⟩ := request
      dsimp only
      by_cases nonce : hid = .ps4 ∧ reportType = some .feature ∧ reportId = 0xF0
      · obtain ⟨rfl, rfl, rfl⟩ := nonce
        rw [shared_nonce]
        dsimp only
        rw [Prog.finish_bind]
        exact nonce_setOutcome size decoded
      · have used : ¬ NonceIgnored env hid value := by
          rintro ⟨active, -, asked⟩
          obtain ⟨rfl, rfl⟩ := Prod.ext_iff.mp (Option.some.inj (decoded.symm.trans asked))
          exact nonce ⟨active, rfl, rfl⟩
        cases written : setReportPL fw p answer reportType reportId report.data with
        | mk result p' =>
            cases result with
            | none =>
                dsimp only
                rw [hidSetReport_other nonce]
                exact outcome_refused used p' s
            | some accepted =>
                cases accepted with
                | false => exact outcome_refused used p' s
                | true =>
                    exact ⟨Or.inl rfl, iff_of_true
                      (fun _ => shared_carriedOut full decoded written) used⟩

/-- The callback answers at once, or what the handler of the PS4 does. -/
theorem setReport_cases (fw : Firmware) (answer : FlashAnswer) (env : Env) (hid : ProbeType)
    (p : Provisioning) (value : UInt16) (data : List UInt8) :
    (∃ result, setReport fw answer env hid p value data = .ret result) ∨
      ∃ p' reportType reportId, setReport fw answer env hid p value data =
        Ps4.setReport env reportType reportId data >>= fun result =>
          .ret (setReportAnswer p' result) := by
  unfold setReport
  cases decodeHidReportValue value with
  | none => exact Or.inl ⟨_, rfl⟩
  | some request =>
      obtain ⟨reportType, reportId⟩ := request
      dsimp only
      cases setReportPL fw p answer reportType reportId data with
      | mk result p' =>
          cases result with
          | some accepted => exact Or.inl ⟨_, rfl⟩
          | none =>
              cases hid with
              | nx => exact Or.inl ⟨_, rfl⟩
              | ps3 => exact Or.inl ⟨_, rfl⟩
              | ps4 => exact Or.inr ⟨p', reportType, reportId, rfl⟩

theorem setReport_atomic {m : Ps4.Machine} (inv : Ps4.Inv env m) (data : List UInt8) :
    Prog.Atomic (Ps4.callbackExec env) (Ps4.workStep env)
      (setReport fw answer env hid p value data) (m.shared, m.worker) := by
  rcases setReport_cases fw answer env hid p value data with
    ⟨result, is⟩ | ⟨p', reportType, reportId, is⟩
  · rw [is]
    trivial
  · rw [is]
    apply (Prog.atomic_map _).mpr
    exact (Prog.atomic_map Ps4.Reply.set).mp
      (Ps4.program_atomic inv (.setReport reportType reportId data))

theorem setReport_within (data : List UInt8) :
    Prog.Within 4 (setReport fw answer env hid p value data) := by
  rcases setReport_cases fw answer env hid p value data with
    ⟨result, is⟩ | ⟨p', reportType, reportId, is⟩
  · rw [is]
    trivial
  · rw [is]
    apply (Prog.within_map _).mpr
    exact (Prog.within_map Ps4.Reply.set).mp (Ps4.setReport_within reportType reportId)

end SetReport

/-- A call of the callback beside the work item, after a run that has left no callback open. -/
def setReportCall (fw : Firmware) (answer : FlashAnswer) (env : Env) (hid : ProbeType)
    (p : Provisioning) (value : UInt16) (data : List UInt8) (es : List Ps4.Event)
    (moves : List (Option MbedResult)) : Auth (Int × Provisioning) × Shared × Auth Unit :=
  run (Prog.interleave (Ps4.callbackExec env) (Ps4.workStep env))
    (setReport fw answer env hid p value data,
      (run (Ps4.Machine.step env) Ps4.Machine.boot es).shared,
      (run (Ps4.Machine.step env) Ps4.Machine.boot es).worker) moves

/-- The request is answered in the state `m` that the work item has left at one point of the call,
and what is done to it there is `s'`. -/
structure SetServed (fw : Firmware) (answer : FlashAnswer) (env : Env) (hid : ProbeType)
    (p : Provisioning) (value : UInt16) (report : Report) (es : List Ps4.Event)
    (moves : List (Option MbedResult)) (result : Int × Provisioning)
    (before after : List MbedResult) (m : Ps4.Machine) (s' : Shared) : Prop where
  split : moves.reduceOption = before ++ after
  point : m = run (Ps4.Machine.step env) Ps4.Machine.boot (es ++ before.map .worker)
  outcome : SetOutcome fw answer env hid value report p m.shared (result, s')
  rest : setReportCall fw answer env hid p value report.data es moves =
    (.ret result, run (Ps4.workStep env) (s', m.worker) after)

/-- The callback returns 0 only for what has been carried out, but for a PS4 nonce in a build
without authentication, which it always accepts. -/
theorem set_report_iff (fw : Firmware) (answer : FlashAnswer) (env : Env) (hid : ProbeType)
    {p : Provisioning} (full : p.buffer.length = 4096) (value : UInt16) (report : Report)
    (es : List Ps4.Event) {last : Ps4.Reply}
    (idle : (run (Ps4.Machine.step env) Ps4.Machine.boot es).usb = .ret last)
    (moves : List (Option MbedResult)) :
    (4 ≤ moves.countP Option.isNone →
      ∃ result, (setReportCall fw answer env hid p value report.data es moves).1 = .ret result) ∧
    ∀ result, (setReportCall fw answer env hid p value report.data es moves).1 = .ret result →
      ∃ before after m s',
        SetServed fw answer env hid p value report es moves result before after m s' := by
  refine ⟨fun enough => Prog.within_returns (setReport_within report.data) enough _, ?_⟩
  intro result returned
  obtain ⟨before, after, m, split, point, reached⟩ := Ps4.program_linearizes
    (fun _ inv => setReport_atomic inv report.data) es idle returned
  have size : m.shared.nonce.length = 256 := by
    rw [point]
    exact (Ps4.run_inv (Ps4.boot_inv env) _).nonce_size
  have outcome := @setReport_outcome fw answer env hid value report p m.shared full size
  generalize (setReport fw answer env hid p value report.data).finish (Ps4.exec env .success)
    m.shared = finished at outcome reached
  obtain ⟨result', s'⟩ := finished
  obtain rfl := Prog.ret.inj (returned.symm.trans (congrArg Prod.fst reached))
  exact ⟨before, after, m, s', split, point, outcome, reached⟩

/-- The last part of a nonce right after boot. -/
def lastPartReport : Report := ⟨Ps4.lastPart, by decide⟩

theorem last_part_acknowledged :
    ∃ before after m s', SetServed ⟨true, false, 4096⟩ ⟨0, 0, 0⟩ Ps4.exampleEnv .ps4
      (Provisioning.boot none) 0x03F0 lastPartReport [] (List.replicate 4 none)
      (0, Provisioning.boot none) before after m s' :=
  (set_report_iff ⟨true, false, 4096⟩ ⟨0, 0, 0⟩ Ps4.exampleEnv .ps4 List.length_replicate 0x03F0
    lastPartReport [] rfl (List.replicate 4 none)).2 _ rfl

/-- An empty nonce report, in a build without authentication. -/
theorem nonce_accepted_unused :
    ¬ ∀ (fw : Firmware) (answer : FlashAnswer) (env : Env) (hid : ProbeType) (p : Provisioning)
      (value : UInt16) (report : Report) (es : List Ps4.Event) (moves : List (Option MbedResult))
      (result : Int × Provisioning), p.buffer.length = 4096 →
      (setReportCall fw answer env hid p value report.data es moves).1 = .ret result →
        result.1 = 0 → ∃ s s', CarriedOut fw answer env hid value report p result.2 s s' := by
  intro all
  obtain ⟨s, s', carriedOut⟩ := all ⟨true, false, 4096⟩ ⟨0, 0, 0⟩
    { Ps4.exampleEnv with ps4Auth := false } .ps4 (Provisioning.boot none) 0x03F0 ⟨[], by decide⟩ []
    [] (0, Provisioning.boot none) List.length_replicate rfl rfl
  exact not_carriedOut ⟨rfl, rfl, by decide⟩ carriedOut

end PassingLink.Output
