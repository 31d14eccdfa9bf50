import PassingLink.Lib.Greatest
import PassingLink.Lib.Reassembly
import PassingLink.Lib.Runs
import PassingLink.Ps4.Hid

/-! The provisioning image that is written over USB: `provisioning.cpp` and
`Hid::SetReportPL`. -/
namespace PassingLink.Memory
open Lib
open Ps4 (HidReportType)

/-- The options that the reports depend on, and `FLASH_AREA_SIZE(provisioning)`. -/
structure Firmware where
  runtimeProvisioning : Bool
  mcubootEnter : Bool
  flashAreaSize : Nat

/-- What `flash_area_open`, `flash_area_erase` and `flash_area_write` return. -/
structure FlashAnswer where
  opened : Int
  erased : Int
  written : Int

inductive Restart where
  | reboot
  | mcuboot
  deriving DecidableEq, Repr

/-- The static variables of `provisioning.cpp`, with the flash partition, whose contents are
not known after an error, and the restart that a report has asked for. -/
structure Provisioning where
  buffer : List UInt8
  length : Nat
  flash : Option (List UInt8)
  restart : Option Restart

def Provisioning.boot (flash : Option (List UInt8)) : Provisioning :=
  ⟨List.replicate 4096 0, 0, flash, none⟩

/-- The data stage of a control request, whose length is a 16 bit field of the setup packet. -/
structure Report where
  data : List UInt8
  fits : data.length < 65536

def provisioningWrite (p : Provisioning) (data : List UInt8) (offset : Nat) : Bool × Provisioning :=
  if 4096 < (data.length + offset) % 2 ^ 32 then (false, p)
  else
    (true,
      { p with
        buffer := overwrite p.buffer offset data
        length := max p.length ((offset + data.length) % 2 ^ 32) })

def provisioningFlush (fw : Firmware) (p : Provisioning) (answer : FlashAnswer) :
    Bool × Provisioning :=
  if answer.opened ≠ 0 then (false, p)
  else if answer.erased ≠ 0 then (false, { p with flash := none })
  else if answer.written ≠ 0 then (false, { p with flash := none })
  else
    (true,
      { p with
        flash := some (overwrite (List.replicate fw.flashAreaSize 0xff) 0
          (p.buffer.take p.length)) })

/-- `0x1209214c`, as it is in memory. -/
def flushMagic : List UInt8 := [0x4c, 0x21, 0x09, 0x12]

def setReportPL (fw : Firmware) (p : Provisioning) (answer : FlashAnswer)
    (reportType : Option HidReportType) (reportId : UInt8) (data : List UInt8) :
    Option Bool × Provisioning :=
  if reportType = some .feature then
    if reportId = 0x41 then
      if data.length ≠ 2 then (some false, p)
      else if data.getD 1 0 = 1 then (some false, { p with restart := some .reboot })
      else if fw.mcubootEnter ∧ data.getD 1 0 = 2 then
        (some false, { p with restart := some .mcuboot })
      else (some false, p)
    else if fw.runtimeProvisioning ∧ reportId = 0x43 then
      if data.length < 2 then (some false, p)
      else
        let written := provisioningWrite p (data.drop 2) ((data.getD 1 0).toNat * 62)
        (some written.1, written.2)
    else if fw.runtimeProvisioning ∧ reportId = 0x44 then
      if data.length ≠ 5 then (some false, p)
      else if data.drop 1 ≠ flushMagic then (some false, p)
      else
        let flushed := provisioningFlush fw p answer
        (some flushed.1, flushed.2)
    else (none, p)
  else (none, p)

section Requests
variable {fw : Firmware} {p p' : Provisioning} {answer : FlashAnswer}

/-- A request is passed on, refused or asks for a restart, or is one of the two that provision. -/
theorem setReportPL_cases (fw : Firmware) (p : Provisioning) (answer : FlashAnswer)
    (reportType : Option HidReportType) (reportId : UInt8) (data : List UInt8) :
    setReportPL fw p answer reportType reportId data = (none, p) ∨
    (∃ p', setReportPL fw p answer reportType reportId data = (some false, p')) ∨
    (fw.runtimeProvisioning = true ∧ reportType = some .feature ∧
      (reportId = 0x43 ∨ reportId = 0x44) ∧
      ∃ done p', setReportPL fw p answer reportType reportId data = (some done, p')) := by
  unfold setReportPL
  by_cases feature : reportType = some .feature
  · rw [if_pos feature]
    by_cases restart : reportId = 0x41
    · rw [if_pos restart]
      right
      left
      split
      · exact ⟨_, rfl⟩
      split
      · exact ⟨_, rfl⟩
      split
      · exact ⟨_, rfl⟩
      · exact ⟨_, rfl⟩
    rw [if_neg restart]
    by_cases chunk : fw.runtimeProvisioning ∧ reportId = 0x43
    · rw [if_pos chunk]
      refine Or.inr (Or.inr ⟨chunk.1, feature, Or.inl chunk.2, ?_⟩)
      split
      · exact ⟨_, _, rfl⟩
      · exact ⟨_, _, rfl⟩
    rw [if_neg chunk]
    by_cases flush : fw.runtimeProvisioning ∧ reportId = 0x44
    · rw [if_pos flush]
      refine Or.inr (Or.inr ⟨flush.1, feature, Or.inr flush.2, ?_⟩)
      split
      · exact ⟨_, _, rfl⟩
      split
      · exact ⟨_, _, rfl⟩
      · exact ⟨_, _, rfl⟩
    rw [if_neg flush]
    exact Or.inl rfl
  · rw [if_neg feature]
    exact Or.inl rfl

/-- A flush succeeds only if all of the flash does. -/
theorem provisioningFlush_true (flushed : provisioningFlush fw p answer = (true, p')) :
    (answer.opened = 0 ∧ answer.erased = 0 ∧ answer.written = 0) ∧
      p'.flash = some (overwrite (List.replicate fw.flashAreaSize 0xff) 0
        (p.buffer.take p.length)) := by
  unfold provisioningFlush at flushed
  by_cases opened : answer.opened ≠ 0
  · rw [if_pos opened] at flushed
    cases flushed
  by_cases erased : answer.erased ≠ 0
  · rw [if_neg opened, if_pos erased] at flushed
    cases flushed
  by_cases stored : answer.written ≠ 0
  · rw [if_neg opened, if_neg erased, if_pos stored] at flushed
    cases flushed
  rw [if_neg opened, if_neg erased, if_neg stored] at flushed
  obtain rfl := (Prod.ext_iff.mp flushed).2
  exact ⟨⟨Decidable.not_not.mp opened, Decidable.not_not.mp erased, Decidable.not_not.mp stored⟩,
    rfl⟩

end Requests

/-! ### A write report -/

def Report.index (report : Report) : Nat := (report.data.getD 1 0).toNat

def Report.payload (report : Report) : List UInt8 := report.data.drop 2

/-- A chunk that ends inside the buffer. -/
def Report.Fits (report : Report) : Prop :=
  2 ≤ report.data.length ∧ 62 * report.index + report.payload.length ≤ 4096

instance (report : Report) : Decidable report.Fits := inferInstanceAs (Decidable (_ ∧ _))

def Report.write (report : Report) : Write UInt8 := ⟨62 * report.index, report.payload⟩

/-- `WriteProvisioning`. -/
def writeProvisioning (fw : Firmware) (p : Provisioning) (report : Report) :
    Option Bool × Provisioning :=
  setReportPL fw p ⟨0, 0, 0⟩ (some .feature) 0x43 report.data

section Write
variable {fw : Firmware} {p : Provisioning} {report : Report}

theorem write_size (report : Report) :
    (report.payload.length + report.index * 62) % 2 ^ 32 =
      62 * report.index + report.payload.length := by
  have short := report.fits
  have byte := (report.data.getD 1 0).toNat_lt
  have payload : report.payload.length = report.data.length - 2 := List.length_drop
  unfold Report.index
  omega

theorem writeProvisioning_eq (enabled : fw.runtimeProvisioning = true) :
    writeProvisioning fw p report =
      if report.Fits then
        (some true,
          { p with
            buffer := report.write.apply p.buffer
            length := max p.length report.write.stop })
      else (some false, p) := by
  have size := write_size report
  have other : ¬ (0x43 : UInt8) = 0x41 := by decide
  simp only [writeProvisioning, setReportPL, if_true, other, if_false, enabled, and_self]
  by_cases short : report.data.length < 2
  · have refused : ¬ report.Fits := fun fits => Nat.not_lt.mpr fits.1 short
    rw [if_pos short, if_neg refused]
  · rw [if_neg short]
    have payload : report.data.drop 2 = report.payload := rfl
    have index : (report.data.getD 1 0).toNat = report.index := rfl
    have stop : report.write.stop = 62 * report.index + report.payload.length := rfl
    simp only [provisioningWrite, payload, index, size]
    by_cases fits : 62 * report.index + report.payload.length ≤ 4096
    · have accepted : report.Fits := ⟨Nat.le_of_not_lt short, fits⟩
      rw [if_neg (Nat.not_lt.mpr fits), if_pos accepted, Nat.add_comm, size, ← stop,
        Nat.mul_comm]
      rfl
    · have refused : ¬ report.Fits := fun accepted => fits accepted.2
      rw [if_pos (Nat.lt_of_not_le fits), if_neg refused]

end Write

/-! ### The image -/

def accepted (reports : List Report) : List (Write UInt8) :=
  (reports.filter fun report => report.Fits).map Report.write

/-- The end of the longest write. -/
def furthest (writes : List (Write UInt8)) : Nat := (writes.map Write.stop).foldl max 0

def provisioned (fw : Firmware) (flash : Option (List UInt8)) (reports : List Report) :
    Provisioning :=
  run (fun p report => (writeProvisioning fw p report).2) (Provisioning.boot flash) reports

theorem accepted_stop {reports : List Report} {write : Write UInt8}
    (member : write ∈ accepted reports) : write.stop ≤ 4096 := by
  obtain ⟨report, inside, rfl⟩ := List.mem_map.mp member
  have fits : report.Fits := of_decide_eq_true (List.mem_filter.mp inside).2
  exact fits.2

theorem accepted_concat (reports : List Report) (report : Report) :
    accepted (reports ++ [report]) =
      if report.Fits then accepted reports ++ [report.write] else accepted reports := by
  unfold accepted
  rw [List.filter_append, List.map_append]
  by_cases fits : report.Fits
  · simp only [List.filter_cons, fits, decide_true, if_true, List.filter_nil, List.map_cons,
      List.map_nil]
  · simp only [List.filter_cons, fits, decide_false, Bool.false_eq_true, if_false, List.filter_nil,
      List.map_nil, List.append_nil]

section Image
variable {fw : Firmware} {flash : Option (List UInt8)}

theorem provisioned_concat (reports : List Report) (report : Report) :
    provisioned fw flash (reports ++ [report]) =
      (writeProvisioning fw (provisioned fw flash reports) report).2 := by
  rw [provisioned, run_append]
  rfl

theorem provisioned_eq (enabled : fw.runtimeProvisioning = true) (reports : List Report) :
    provisioned fw flash reports =
      { buffer := (accepted reports).foldl Write.apply (List.replicate 4096 0)
        length := furthest (accepted reports)
        flash := flash
        restart := none } := by
  induction reports using List.reverseRecOn with
  | nil => rfl
  | append_singleton reports report ih =>
      rw [provisioned_concat, writeProvisioning_eq enabled, ih, accepted_concat]
      split
      · simp only [furthest, List.foldl_append, List.map_append, List.map_cons, List.map_nil,
          List.foldl_cons, List.foldl_nil]
      · rfl

end Image

/-- What the writes so far have made of the image. -/
structure Assembled (writes : List (Write UInt8)) (p : Provisioning) : Prop where
  size : p.buffer.length = 4096
  bytes : ∀ i < 4096, p.buffer[i]? = some ((Write.last writes i).getD 0)
  length : p.length = furthest writes

theorem provisioned_assembled {fw : Firmware} (enabled : fw.runtimeProvisioning = true)
    (flash : Option (List UInt8)) (reports : List Report) :
    Assembled (accepted reports) (provisioned fw flash reports) := by
  have inside : ∀ write ∈ accepted reports,
      write.stop ≤ (List.replicate 4096 (0 : UInt8)).length := by
    intro write member
    rw [List.length_replicate]
    exact accepted_stop member
  obtain ⟨length, elements⟩ := Write.foldl_apply (accepted reports) inside
  rw [provisioned_eq enabled]
  refine ⟨length.trans List.length_replicate, ?_, rfl⟩
  intro i below
  rw [elements]
  cases Write.last (accepted reports) i with
  | none =>
      rw [Option.isSome_none, if_neg Bool.false_ne_true, List.getElem?_replicate, if_pos below]
      rfl
  | some byte => rfl

/-! ### A blob in chunks -/

def chunkCount (blob : List UInt8) : Nat := (blob.length + 61) / 62

def chunkWrite (blob : List UInt8) (k : Nat) : Write UInt8 := ⟨62 * k, slice blob (62 * k) 62⟩

/-- The report for one chunk; the last chunk may be short. -/
def chunkReport (blob : List UInt8) (k : Nat) : Report where
  data := 0x43 :: UInt8.ofNat k :: slice blob (62 * k) 62
  fits := by
    have short : (slice blob (62 * k) 62).length ≤ 62 := List.length_take_le _ _
    simp only [List.length_cons]
    omega

def flushProvisioning (fw : Firmware) (p : Provisioning) (answer : FlashAnswer) :
    Option Bool × Provisioning :=
  setReportPL fw p answer (some .feature) 0x44 (0x44 :: flushMagic)

section Chunks
variable {blob : List UInt8} {k : Nat}

theorem length_chunk (blob : List UInt8) (k : Nat) :
    (slice blob (62 * k) 62).length = min 62 (blob.length - 62 * k) :=
  length_slice_eq blob (62 * k) 62

theorem chunkReport_index (small : blob.length ≤ 4096) (inside : k < chunkCount blob) :
    (chunkReport blob k).index = k := by
  have byte : k < 256 := by
    unfold chunkCount at inside
    omega
  have value : (chunkReport blob k).index = (UInt8.ofNat k).toNat := rfl
  rw [value, UInt8.toNat_ofNat']
  exact Nat.mod_eq_of_lt byte

theorem chunkReport_fits (small : blob.length ≤ 4096) (inside : k < chunkCount blob) :
    (chunkReport blob k).Fits := by
  have length : (chunkReport blob k).payload.length = min 62 (blob.length - 62 * k) :=
    length_chunk blob k
  refine ⟨?_, ?_⟩
  · simp only [chunkReport, List.length_cons]
    omega
  · rw [chunkReport_index small inside, length]
    unfold chunkCount at inside
    omega

theorem chunkReport_write (small : blob.length ≤ 4096) (inside : k < chunkCount blob) :
    (chunkReport blob k).write = chunkWrite blob k := by
  rw [Report.write, chunkReport_index small inside]
  rfl

theorem chunk_stop (inside : k < chunkCount blob) :
    (chunkWrite blob k).stop = min (62 * k + 62) blob.length := by
  unfold Write.stop chunkWrite
  rw [length_chunk]
  unfold chunkCount at inside
  dsimp only
  omega

variable {order : List Nat}

theorem accepted_chunks (small : blob.length ≤ 4096) (inside : ∀ k ∈ order, k < chunkCount blob) :
    accepted (order.map (chunkReport blob)) = order.map (chunkWrite blob) := by
  have all : (order.map (chunkReport blob)).filter (fun report => report.Fits) =
      order.map (chunkReport blob) := by
    rw [List.filter_eq_self]
    intro report member
    obtain ⟨k, chunk, rfl⟩ := List.mem_map.mp member
    exact decide_eq_true (chunkReport_fits small (inside k chunk))
  rw [accepted, all, List.map_map]
  apply List.map_congr_left
  intro k chunk
  exact chunkReport_write small (inside k chunk)

theorem chunk_copies (blob : List UInt8) (order : List Nat) :
    ∀ write ∈ order.map (chunkWrite blob), ∀ j < write.data.length,
      write.data[j]? = blob[write.offset + j]? := by
  intro write member j below
  obtain ⟨k, -, rfl⟩ := List.mem_map.mp member
  have short : j < 62 := Nat.lt_of_lt_of_le below (List.length_take_le _ _)
  exact getElem?_slice blob (62 * k) short

/-- The end of the longest write, or 0, and no write goes on behind it. -/
theorem furthest_best (writes : List (Write UInt8)) :
    furthest writes ∈ 0 :: writes.map Write.stop ∧
      ∀ stop ∈ 0 :: writes.map Write.stop, stop ≤ furthest writes :=
  foldl_best (r := fun stop furthest => stop ≤ furthest) (fun _ _ _ => Nat.le_trans)
    (fun _ _ reached => reached) (fun _ _ => Nat.le_of_not_le) (writes.map Write.stop) 0

theorem furthest_chunks (complete : ∀ k, k ∈ order ↔ k < chunkCount blob) :
    furthest (order.map (chunkWrite blob)) = blob.length := by
  obtain ⟨member, furthest⟩ := furthest_best (order.map (chunkWrite blob))
  rw [List.map_map] at member furthest
  apply Nat.le_antisymm
  · rcases List.mem_cons.mp member with unwritten | member
    · rw [unwritten]
      exact Nat.zero_le _
    · obtain ⟨k, chunk, stop⟩ := List.mem_map.mp member
      rw [← stop, Function.comp_apply, chunk_stop ((complete k).mp chunk)]
      exact Nat.min_le_right _ _
  · by_cases empty : blob.length = 0
    · rw [empty]
      exact Nat.zero_le _
    · have last : chunkCount blob - 1 < chunkCount blob := by
        unfold chunkCount
        omega
      have reaches : min (62 * (chunkCount blob - 1) + 62) blob.length = blob.length := by
        unfold chunkCount
        omega
      have stop := chunk_stop last
      rw [reaches] at stop
      apply furthest
      apply List.mem_cons_of_mem
      exact List.mem_map.mpr ⟨chunkCount blob - 1, (complete _).mpr last, stop⟩

theorem assembled_blob {p : Provisioning} (complete : ∀ k, k ∈ order ↔ k < chunkCount blob)
    (small : blob.length ≤ 4096)
    (assembled : Assembled (order.map (chunkWrite blob)) p) :
    p.buffer.take p.length = blob := by
  rw [assembled.length, furthest_chunks complete]
  apply List.ext_getElem?
  intro i
  rw [List.getElem?_take]
  split
  · rename_i inside
    have chunk : i / 62 < chunkCount blob := by
      unfold chunkCount
      omega
    have covered : (chunkWrite blob (i / 62)).covers i = true := by
      rw [Write.covers_iff, chunkWrite, length_chunk]
      dsimp only
      omega
    have member : chunkWrite blob (i / 62) ∈ order.map (chunkWrite blob) :=
      List.mem_map_of_mem ((complete _).mpr chunk)
    have copied := Write.last_of_copies (chunk_copies blob order) member covered
    rw [assembled.bytes i (by omega), copied, List.getElem?_eq_getElem inside, Option.getD_some]
  · rename_i outside
    exact (List.getElem?_eq_none (Nat.le_of_not_lt outside)).symm

theorem flushProvisioning_eq {fw : Firmware} (enabled : fw.runtimeProvisioning = true)
    (p : Provisioning) :
    flushProvisioning fw p ⟨0, 0, 0⟩ =
      (some true,
        { p with
          flash := some (p.buffer.take p.length ++
            List.replicate (fw.flashAreaSize - (p.buffer.take p.length).length) 0xff) }) := by
  have flushed : flushProvisioning fw p ⟨0, 0, 0⟩ =
      (some true,
        { p with
          flash := some (overwrite (List.replicate fw.flashAreaSize 0xff) 0
            (p.buffer.take p.length)) }) := by
    have notReboot : ¬ (0x44 : UInt8) = 0x41 := by decide
    have notWrite : ¬ (0x44 : UInt8) = 0x43 := by decide
    simp only [flushProvisioning, setReportPL, if_true, if_neg notReboot, notWrite, and_false,
      if_false, enabled, and_self]
    rfl
  rw [flushed, overwrite, List.take_zero, List.nil_append, Nat.zero_add, List.drop_replicate]

end Chunks

/-- The reports that fit, and they alone, make up the image; a blob that is sent in chunks, in
any order and with any of them repeated, is what a flush then stores. -/
theorem provisioning_image {fw : Firmware} (enabled : fw.runtimeProvisioning = true)
    (flash : Option (List UInt8)) (reports : List Report) :
    (∀ report, (writeProvisioning fw (provisioned fw flash reports) report).1 =
        some (decide report.Fits) ∧
      (¬ report.Fits → (writeProvisioning fw (provisioned fw flash reports) report).2 =
        provisioned fw flash reports)) ∧
      Assembled (accepted reports) (provisioned fw flash reports) ∧
      ∀ (blob : List UInt8) (order : List Nat), blob.length ≤ 4096 →
        (∀ k, k ∈ order ↔ k < chunkCount blob) →
        reports = order.map (chunkReport blob) →
        flushProvisioning fw (provisioned fw flash reports) ⟨0, 0, 0⟩ =
          (some true,
            { provisioned fw flash reports with
              flash := some (blob ++ List.replicate (fw.flashAreaSize - blob.length) 0xff) }) := by
  have assembled := provisioned_assembled enabled flash reports
  refine ⟨?_, assembled, ?_⟩
  · intro report
    rw [writeProvisioning_eq enabled]
    by_cases fits : report.Fits
    · rw [if_pos fits]
      exact ⟨congrArg some (decide_eq_true fits).symm, fun refused => absurd fits refused⟩
    · rw [if_neg fits]
      exact ⟨congrArg some (decide_eq_false fits).symm, fun _ => rfl⟩
  · intro blob order small complete sent
    rw [sent, accepted_chunks small fun k chunk => (complete k).mp chunk] at assembled
    have image := assembled_blob complete small assembled
    rw [flushProvisioning_eq enabled, sent, image]

/-- 64 bytes, whose second chunk is sent twice and before the first one. -/
theorem two_chunks_stored :
    flushProvisioning ⟨true, false, 4096⟩
        (provisioned ⟨true, false, 4096⟩ none
          ([1, 0, 1].map (chunkReport (List.replicate 64 7)))) ⟨0, 0, 0⟩ =
      (some true,
        { provisioned ⟨true, false, 4096⟩ none
            ([1, 0, 1].map (chunkReport (List.replicate 64 7))) with
          flash := some (List.replicate 64 7 ++ List.replicate 4032 0xff) }) := by
  have count : chunkCount (List.replicate 64 7) = 2 := by decide
  have all (k : Nat) : k ∈ [1, 0, 1] ↔ k < chunkCount (List.replicate 64 7) := by
    rw [count]
    simp only [List.mem_cons, List.not_mem_nil, or_false]
    omega
  have image := @provisioning_image ⟨true, false, 4096⟩ rfl none
    ([1, 0, 1].map (chunkReport (List.replicate 64 7)))
  exact image.2.2 (List.replicate 64 7) [1, 0, 1] (by decide) all rfl

end PassingLink.Memory
