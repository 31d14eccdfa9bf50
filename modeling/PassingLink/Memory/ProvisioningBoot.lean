import PassingLink.Lib.BitFields
import PassingLink.Memory.Provisioning

/-! The provisioning record that is found when the device starts: `provisioning_init`, over uploads,
flushes that fail and restarts in any order. -/
namespace PassingLink.Memory
open Lib
open Ps4 (HidReportType)

/-- `ProvisioningData`, which is packed; the PS4 key is an address. -/
@[ext]
structure ProvisioningData where
  version : UInt32
  boardName : List UInt8
  ps4Key : UInt32
  sized : boardName.length = 128

/-- `ProvisioningVersion::V1`. -/
def provisioningV1 : UInt32 := 0x1209214c

/-- A byte of the partition. -/
def flashByte (contents : List UInt8) (i : Nat) : UInt8 := contents.getD i 0xff

def ProvisioningData.read (byte : Nat → UInt8) : ProvisioningData where
  version := .ofNat (ofBytes ((List.range 4).map byte))
  boardName := (List.range 128).map fun i => byte (4 + i)
  ps4Key := .ofNat (ofBytes ((List.range 4).map fun i => byte (132 + i)))
  sized := by rw [List.length_map, List.length_range]

def strnlen (s : List UInt8) (n : Nat) : Nat := ((s.take n).takeWhile (· ≠ 0)).length

/-- Whether `pd` is set. -/
def provisioningInit (byte : Nat → UInt8) : Bool :=
  let p := ProvisioningData.read byte
  if p.version ≠ provisioningV1 then false
  else if strnlen p.boardName 128 ≥ 128 then false
  else true

/-- The partition is read where it lies: a flush goes on below `pd`. -/
structure ProvisionedDevice where
  provisioning : Provisioning
  pd : Bool

def ProvisionedDevice.boot (contents : List UInt8) : ProvisionedDevice :=
  ⟨Provisioning.boot (some contents), provisioningInit (flashByte contents)⟩

/-- What `provisioning_data_get` points to, as far as it is known. -/
def ProvisionedDevice.data (s : ProvisionedDevice) : Option (Option ProvisioningData) :=
  if s.pd then some (s.provisioning.flash.map fun contents => .read (flashByte contents)) else none

/-- A restart finds `contents` where a flush has failed. -/
inductive ProvisioningEvent where
  | request (answer : FlashAnswer) (reportType : Option HidReportType) (reportId : UInt8)
      (report : Report)
  | restart (contents : List UInt8)

def ProvisionedDevice.step (fw : Firmware) (s : ProvisionedDevice) :
    ProvisioningEvent → ProvisionedDevice
  | .request answer reportType reportId report =>
      { s with
        provisioning := (setReportPL fw s.provisioning answer reportType reportId report.data).2 }
  | .restart contents => .boot (s.provisioning.flash.getD contents)

/-! ### The record -/

def ProvisioningData.bytes (d : ProvisioningData) : List UInt8 :=
  littleEndian 4 d.version.toNat ++ d.boardName ++ littleEndian 4 d.ps4Key.toNat

/-- What is accepted at a boot. -/
def ProvisioningData.Valid (d : ProvisioningData) : Prop :=
  d.version = provisioningV1 ∧ 0 ∈ d.boardName

instance (d : ProvisioningData) : Decidable d.Valid := inferInstanceAs (Decidable (_ ∧ _))

theorem strnlen_lt_iff (s : List UInt8) : strnlen s s.length < s.length ↔ 0 ∈ s := by
  unfold strnlen
  rw [List.take_length]
  induction s with
  | nil => simp
  | cons byte s ih =>
      by_cases zero : byte = 0
      · simp [zero]
      · have other : ¬ 0 = byte := fun same => zero same.symm
        rw [List.takeWhile_cons_of_pos (by simpa using zero), List.length_cons, List.length_cons,
          Nat.succ_lt_succ_iff, ih, List.mem_cons, or_iff_right other]

theorem provisioningInit_iff (byte : Nat → UInt8) :
    provisioningInit byte = true ↔ (ProvisioningData.read byte).Valid := by
  have named := strnlen_lt_iff (ProvisioningData.read byte).boardName
  rw [(ProvisioningData.read byte).sized] at named
  unfold ProvisioningData.Valid
  rw [← named]
  simp only [provisioningInit]
  by_cases version : (ProvisioningData.read byte).version = provisioningV1
  · rw [if_neg (not_not_intro version)]
    by_cases ends : strnlen (ProvisioningData.read byte).boardName 128 < 128
    · rw [if_neg (Nat.not_le_of_lt ends)]
      exact iff_of_true rfl ⟨version, ends⟩
    · rw [if_pos (Nat.le_of_not_lt ends)]
      exact iff_of_false Bool.false_ne_true fun both => ends both.2
  · rw [if_pos version]
    exact iff_of_false Bool.false_ne_true fun both => version both.1

theorem range_map_slice {bytes : List UInt8} {byte : Nat → UInt8} {n k : Nat}
    (fits : k + n ≤ bytes.length) (same : ∀ i < bytes.length, bytes[i]? = some (byte i)) :
    ((List.range n).map fun i => byte (k + i)) = slice bytes k n := by
  apply List.ext_getElem?
  intro i
  by_cases inside : i < n
  · rw [List.getElem?_map, List.getElem?_range inside, getElem?_slice bytes k inside,
      same (k + i) (by omega)]
    rfl
  · rw [List.getElem?_eq_none (by rw [List.length_map, List.length_range]; omega),
      List.getElem?_eq_none (by rw [length_slice fits]; omega)]

theorem word_bytes (x : UInt32) : UInt32.ofNat (ofBytes (littleEndian 4 x.toNat)) = x := by
  have fits : x.toNat < 256 ^ 4 := x.toNat_lt
  rw [ofBytes_littleEndian fits, UInt32.ofNat_toNat]

theorem ProvisioningData.length_bytes (d : ProvisioningData) : d.bytes.length = 136 := by
  unfold bytes
  rw [List.length_append, List.length_append, length_littleEndian, length_littleEndian, d.sized]

theorem ProvisioningData.read_bytes (d : ProvisioningData) {byte : Nat → UInt8}
    (same : ∀ i < 136, d.bytes[i]? = some (byte i)) : read byte = d := by
  have length := d.length_bytes
  rw [← length] at same
  have word (x : UInt32) : (littleEndian 4 x.toNat).length = 4 := length_littleEndian 4 _
  have whole {xs : List UInt8} {n : Nat} (size : xs.length = n) : slice xs 0 n = xs := by
    rw [← size, slice_all]
  have header : (littleEndian 4 d.version.toNat ++ d.boardName).length = 132 := by
    rw [List.length_append, word, d.sized]
  ext1
  · have version := range_map_slice (n := 4) (k := 0) (by omega) same
    rw [bytes, slice_append_left (by omega), slice_append_left (by rw [word]),
      whole (word d.version)] at version
    simp only [Nat.zero_add] at version
    exact (congrArg (fun bytes => UInt32.ofNat (ofBytes bytes)) version).trans (word_bytes _)
  · have name := range_map_slice (n := 128) (k := 4) (by omega) same
    rw [bytes, slice_append_left (by omega), slice_append_right (by rw [word]), word,
      Nat.sub_self, whole d.sized] at name
    exact name
  · have key := range_map_slice (n := 4) (k := 132) (by omega) same
    rw [bytes, slice_append_right (by omega), header, Nat.sub_self, whole (word d.ps4Key)] at key
    exact (congrArg (fun bytes => UInt32.ofNat (ofBytes bytes)) key).trans (word_bytes _)

/-! ### A step -/

def ProvisioningEvent.write : ProvisioningEvent → List (Write UInt8)
  | .request _ reportType reportId report =>
      if reportType = some .feature ∧ reportId = 0x43 ∧ report.Fits then [report.write] else []
  | .restart _ => []

/-- A flush that gets as far as the flash. -/
def ProvisioningEvent.Erases : ProvisioningEvent → Prop
  | .request answer reportType reportId report =>
      reportType = some .feature ∧ reportId = 0x44 ∧ report.data.length = 5 ∧
        report.data.drop 1 = flushMagic ∧ answer.opened = 0
  | .restart _ => False

instance : DecidablePred ProvisioningEvent.Erases
  | .request .. => inferInstanceAs (Decidable (_ ∧ _))
  | .restart _ => inferInstanceAs (Decidable False)

/-- The writes since the last restart. -/
def sinceRestart (writes : List (Write UInt8)) (e : ProvisioningEvent) : List (Write UInt8) :=
  match e with
  | .request .. => writes ++ e.write
  | .restart _ => []

section Steps
variable {fw : Firmware} {s : ProvisionedDevice} {answer : FlashAnswer}
  {reportType : Option HidReportType} {reportId : UInt8} {report : Report}

theorem provisioningFlush_buffer (p : Provisioning) :
    (provisioningFlush fw p answer).2.buffer = p.buffer ∧
      (provisioningFlush fw p answer).2.length = p.length ∧
      (answer.opened ≠ 0 → (provisioningFlush fw p answer).2.flash = p.flash) := by
  unfold provisioningFlush
  by_cases opened : answer.opened ≠ 0
  · rw [if_pos opened]
    exact ⟨rfl, rfl, fun _ => rfl⟩
  · rw [if_neg opened]
    split
    · exact ⟨rfl, rfl, fun closed => absurd closed opened⟩
    split
    · exact ⟨rfl, rfl, fun closed => absurd closed opened⟩
    · exact ⟨rfl, rfl, fun closed => absurd closed opened⟩

theorem request_other {p : Provisioning}
    (chunk : ¬ (reportType = some .feature ∧ reportId = 0x43))
    (flush : ¬ (reportType = some .feature ∧ reportId = 0x44 ∧ report.data.length = 5 ∧
      report.data.drop 1 = flushMagic)) :
    let p' := (setReportPL fw p answer reportType reportId report.data).2
    p'.buffer = p.buffer ∧ p'.length = p.length ∧ p'.flash = p.flash := by
  unfold setReportPL
  by_cases feature : reportType = some .feature
  · rw [if_pos feature]
    by_cases restart : reportId = 0x41
    · rw [if_pos restart]
      split
      · exact ⟨rfl, rfl, rfl⟩
      split
      · exact ⟨rfl, rfl, rfl⟩
      split
      · exact ⟨rfl, rfl, rfl⟩
      · exact ⟨rfl, rfl, rfl⟩
    rw [if_neg restart, if_neg fun both => chunk ⟨feature, both.2⟩]
    by_cases flushes : fw.runtimeProvisioning ∧ reportId = 0x44
    · rw [if_pos flushes]
      by_cases size : report.data.length = 5
      · have magic : report.data.drop 1 ≠ flushMagic := fun magic =>
          flush ⟨feature, flushes.2, size, magic⟩
        rw [if_neg (not_not_intro size), if_pos magic]
        exact ⟨rfl, rfl, rfl⟩
      · rw [if_pos size]
        exact ⟨rfl, rfl, rfl⟩
    · rw [if_neg flushes]
      exact ⟨rfl, rfl, rfl⟩
  · rw [if_neg feature]
    exact ⟨rfl, rfl, rfl⟩

/-- Of the buffer a report does one of the writes, and only a flush that gets as far as the flash
changes the flash. -/
theorem report_effect (enabled : fw.runtimeProvisioning = true) (p : Provisioning) :
    let e : ProvisioningEvent := .request answer reportType reportId report
    let p' := (setReportPL fw p answer reportType reportId report.data).2
    p'.buffer = e.write.foldl Write.apply p.buffer ∧
      p'.length = (e.write.map Write.stop).foldl max p.length ∧
      (¬ e.Erases → p'.flash = p.flash) := by
  intro e p'
  by_cases chunk : reportType = some .feature ∧ reportId = 0x43
  · obtain ⟨rfl, rfl⟩ := chunk
    have other : ¬ (0x43 : UInt8) = 0x41 := by decide
    have answers : p' = (writeProvisioning fw p report).2 := by
      simp only [p', writeProvisioning, setReportPL, if_true, if_neg other, enabled, and_self]
    rw [answers, writeProvisioning_eq enabled]
    by_cases fits : report.Fits
    · have write : e.write = [report.write] := if_pos ⟨rfl, rfl, fits⟩
      rw [if_pos fits, write]
      exact ⟨rfl, rfl, fun _ => rfl⟩
    · have write : e.write = [] := if_neg fun all => fits all.2.2
      rw [if_neg fits, write]
      exact ⟨rfl, rfl, fun _ => rfl⟩
  · have write : e.write = [] := if_neg fun all => chunk ⟨all.1, all.2.1⟩
    rw [write]
    by_cases flush : reportType = some .feature ∧ reportId = 0x44 ∧ report.data.length = 5 ∧
        report.data.drop 1 = flushMagic
    · obtain ⟨rfl, rfl, size, magic⟩ := flush
      have restart : ¬ (0x44 : UInt8) = 0x41 := by decide
      have store : ¬ (0x44 : UInt8) = 0x43 := by decide
      have flushed : p' = (provisioningFlush fw p answer).2 := by
        simp only [p', setReportPL, if_true, if_neg restart, store, and_false, if_false, enabled,
          and_self, size, magic, ne_eq, not_true_eq_false]
      obtain ⟨buffer, length, closed⟩ := @provisioningFlush_buffer fw answer p
      rw [flushed]
      exact ⟨buffer, length, fun kept => closed fun opened =>
        kept ⟨rfl, rfl, size, magic, opened⟩⟩
    · obtain ⟨buffer, length, flash⟩ := @request_other fw answer _ _ _ p chunk flush
      exact ⟨buffer, length, fun _ => flash⟩

end Steps

/-! ### The image and the boot -/

/-- What the writes since the last restart have made of the image. -/
structure Uploaded (writes : List (Write UInt8)) (p : Provisioning) : Prop where
  assembled : Assembled writes p
  inside : ∀ write ∈ writes, write.stop ≤ 4096

/-- A byte of the partition after a flush. -/
def storedByte (writes : List (Write UInt8)) (i : Nat) : UInt8 :=
  if i < furthest writes then (Write.last writes i).getD 0 else 0xff

section Image
variable {fw : Firmware} {writes : List (Write UInt8)} {p p' : Provisioning}

theorem Uploaded.append (uploaded : Uploaded writes p) {later : List (Write UInt8)}
    (inside : ∀ write ∈ later, write.stop ≤ 4096)
    (buffer : p'.buffer = later.foldl Write.apply p.buffer)
    (length : p'.length = (later.map Write.stop).foldl max p.length) :
    Uploaded (writes ++ later) p' := by
  obtain ⟨⟨size, bytes, furthest⟩, before⟩ := uploaded
  rw [← size] at inside
  obtain ⟨same, elements⟩ := Write.foldl_apply later inside
  refine ⟨⟨?_, ?_, ?_⟩, ?_⟩
  · rw [buffer, same, size]
  · intro i below
    rw [buffer, elements, bytes i below, Write.last_append]
    cases Write.last later i <;> rfl
  · rw [length, furthest, Memory.furthest, Memory.furthest, List.map_append, List.foldl_append]
  · intro write member
    rcases List.mem_append.mp member with early | late
    · exact before write early
    · exact Nat.le_trans (inside write late) (Nat.le_of_eq size)

theorem uploaded_boot (flash : Option (List UInt8)) : Uploaded [] (Provisioning.boot flash) := by
  refine ⟨⟨List.length_replicate, ?_, rfl⟩, fun write member => by cases member⟩
  intro i below
  exact (List.getElem?_replicate ..).trans (if_pos below)

theorem write_inside (e : ProvisioningEvent) : ∀ write ∈ e.write, write.stop ≤ 4096 := by
  intro write member
  cases e with
  | restart => cases member
  | request answer reportType reportId report =>
      obtain ⟨accepted, member⟩ := List.mem_ite_nil_right.mp member
      rw [List.mem_singleton.mp member]
      exact accepted.2.2.2

theorem uploaded_step (enabled : fw.runtimeProvisioning = true) {s : ProvisionedDevice}
    (uploaded : Uploaded writes s.provisioning) (e : ProvisioningEvent) :
    Uploaded (sinceRestart writes e) (s.step fw e).provisioning := by
  cases e with
  | restart => exact uploaded_boot _
  | request answer reportType reportId report =>
      obtain ⟨buffer, length, -⟩ :=
        @report_effect fw answer reportType reportId report enabled s.provisioning
      exact uploaded.append (write_inside _) buffer length

theorem uploaded_run (enabled : fw.runtimeProvisioning = true) {s : ProvisionedDevice}
    (uploaded : Uploaded writes s.provisioning) (es : List ProvisioningEvent) :
    Uploaded (run sinceRestart writes es) (run (ProvisionedDevice.step fw) s es).provisioning := by
  induction es generalizing writes s with
  | nil => exact uploaded
  | cons e es ih => exact ih (uploaded_step enabled uploaded e)

theorem stop_furthest {write : Write UInt8} (member : write ∈ writes) :
    write.stop ≤ furthest writes :=
  (furthest_best writes).2 _ (List.mem_cons_of_mem _ (List.mem_map_of_mem member))

theorem Uploaded.furthest_inside (uploaded : Uploaded writes p) : furthest writes ≤ 4096 := by
  rcases List.mem_cons.mp (furthest_best writes).1 with unwritten | member
  · rw [unwritten]
    exact Nat.zero_le _
  · obtain ⟨write, among, stop⟩ := List.mem_map.mp member
    rw [← stop]
    exact uploaded.inside write among

theorem Uploaded.stored (uploaded : Uploaded writes p) (n i : Nat) :
    flashByte (p.buffer.take p.length ++ List.replicate n 0xff) i = storedByte writes i := by
  have size : (p.buffer.take p.length).length = furthest writes := by
    rw [List.length_take, uploaded.assembled.size, uploaded.assembled.length]
    exact Nat.min_eq_left uploaded.furthest_inside
  unfold flashByte storedByte
  rw [List.getD_eq_getElem?_getD]
  by_cases inside : i < furthest writes
  · have below : i < 4096 := Nat.lt_of_lt_of_le inside uploaded.furthest_inside
    rw [if_pos inside, List.getElem?_append_left (by rwa [size]), List.getElem?_take,
      uploaded.assembled.length, if_pos inside, uploaded.assembled.bytes i below, Option.getD_some]
  · rw [if_neg inside, List.getElem?_append_right (by omega), List.getElem?_replicate]
    split <;> rfl

end Image

/-- `FlushProvisioning`, with a flash that works. -/
def flushed : ProvisioningEvent :=
  .request ⟨0, 0, 0⟩ (some .feature) 0x44 ⟨0x44 :: flushMagic, by decide⟩

/-- `pd` is what a boot makes of the partition. -/
structure Booted (contents : List UInt8) (s : ProvisionedDevice) : Prop where
  flash : s.provisioning.flash = some contents
  pd : s.pd = provisioningInit (flashByte contents)

section Boot
variable {fw : Firmware} {s : ProvisionedDevice} {contents : List UInt8} {e : ProvisioningEvent}

theorem quiet_flash (enabled : fw.runtimeProvisioning = true)
    (flash : s.provisioning.flash = some contents) (quiet : ¬ e.Erases) :
    (s.step fw e).provisioning.flash = some contents := by
  cases e with
  | restart found =>
      change some (s.provisioning.flash.getD found) = some contents
      rw [flash, Option.getD_some]
  | request answer reportType reportId report =>
      obtain ⟨-, -, kept⟩ :=
        @report_effect fw answer reportType reportId report enabled s.provisioning
      exact (kept quiet).trans flash

theorem restart_booted (flash : s.provisioning.flash = some contents) (found : List UInt8) :
    Booted contents (s.step fw (.restart found)) := by
  have same : s.step fw (.restart found) = .boot contents := by
    change ProvisionedDevice.boot (s.provisioning.flash.getD found) = _
    rw [flash, Option.getD_some]
  rw [same]
  exact ⟨rfl, rfl⟩

theorem Booted.step (enabled : fw.runtimeProvisioning = true) (booted : Booted contents s)
    (quiet : ¬ e.Erases) : Booted contents (s.step fw e) := by
  cases e with
  | restart found => exact restart_booted booted.flash found
  | request => exact ⟨quiet_flash enabled booted.flash quiet, booted.pd⟩

/-- With no flush, the first restart settles what is found from then on. -/
theorem quiet_booted (enabled : fw.runtimeProvisioning = true)
    (flash : s.provisioning.flash = some contents) {es : List ProvisioningEvent}
    (quiet : ∀ e ∈ es, ¬ e.Erases) {found : List UInt8} (restarted : .restart found ∈ es) :
    Booted contents (run (ProvisionedDevice.step fw) s es) := by
  induction es generalizing s with
  | nil => cases restarted
  | cons e es ih =>
      have now : ¬ e.Erases := quiet e List.mem_cons_self
      have later : ∀ e ∈ es, ¬ e.Erases := fun e member => quiet e (List.mem_cons_of_mem _ member)
      rcases List.mem_cons.mp restarted with rfl | after
      · have legal : Along (ProvisionedDevice.step fw) (fun _ e => ¬ e.Erases)
            (s.step fw (.restart found)) es := along_of_forall (fun e member _ => later e member) _
        exact run_invariant_of_legal (fun _ _ quiet booted => booted.step enabled quiet)
          (restart_booted flash found) legal
      · exact ih (quiet_flash enabled flash now) later after

end Boot

/-! ### A record that is uploaded -/

/-- What is found at a boot. -/
def recordAt (byte : Nat → UInt8) : Option (Option ProvisioningData) :=
  if (ProvisioningData.read byte).Valid then some (some (.read byte)) else none

/-- One of the chunks of a blob, or no write. -/
def ProvisioningEvent.Uploads (blob : List UInt8) : ProvisioningEvent → Prop
  | .request answer reportType reportId report =>
      (request answer reportType reportId report).write = [] ∨
        ∃ k < chunkCount blob,
          (request answer reportType reportId report).write = [chunkWrite blob k]
  | .restart _ => False

theorem Booted.data {contents : List UInt8} {s : ProvisionedDevice} (booted : Booted contents s) :
    s.data = recordAt (flashByte contents) := by
  unfold ProvisionedDevice.data recordAt
  rw [booted.pd, booted.flash]
  by_cases valid : (ProvisioningData.read (flashByte contents)).Valid
  · rw [(provisioningInit_iff _).mpr valid, if_pos rfl, if_pos valid]
    rfl
  · rw [if_neg fun found => valid ((provisioningInit_iff _).mp found), if_neg valid]

/-- The first byte of a record is the first one of the magic number. -/
theorem version_byte {byte : Nat → UInt8}
    (version : (ProvisioningData.read byte).version = provisioningV1) : byte 0 = 0x4c := by
  have low : (ofBytes ((List.range 4).map byte)) % 256 = (byte 0).toNat := by
    have first : (List.range 4).map byte = byte 0 :: [byte 1, byte 2, byte 3] := rfl
    rw [first, ofBytes, List.map_cons, Nat.ofDigits_cons]
    have small := (byte 0).toNat_lt
    omega
  have whole : ofBytes ((List.range 4).map byte) % 2 ^ 32 = 0x1209214c :=
    (UInt32.toNat_ofNat' ..).symm.trans (congrArg UInt32.toNat version)
  apply UInt8.toNat_inj.mp
  rw [← low]
  change _ = 0x4c
  omega

theorem uploads_writes {blob : List UInt8} {upload : List ProvisioningEvent}
    (uploads : ∀ e ∈ upload, e.Uploads blob) (writes : List (Write UInt8)) :
    run sinceRestart writes upload = writes ++ upload.flatMap ProvisioningEvent.write := by
  induction upload generalizing writes with
  | nil => exact (List.append_nil _).symm
  | cons e upload ih =>
      have step : sinceRestart writes e = writes ++ e.write := by
        cases e with
        | request => rfl
        | restart => exact absurd (uploads _ List.mem_cons_self) id
      rw [run_cons, step, ih fun e member => uploads e (List.mem_cons_of_mem _ member),
        List.flatMap_cons, List.append_assoc]

theorem uploads_chunk {blob : List UInt8} {upload : List ProvisioningEvent}
    (uploads : ∀ e ∈ upload, e.Uploads blob) {write : Write UInt8}
    (member : write ∈ upload.flatMap ProvisioningEvent.write) :
    ∃ k < chunkCount blob, write = chunkWrite blob k := by
  obtain ⟨e, among, inside⟩ := List.mem_flatMap.mp member
  cases e with
  | restart => cases inside
  | request =>
      rcases uploads _ among with erased | ⟨k, chunk, is⟩
      · rw [erased] at inside
        cases inside
      · rw [is] at inside
        exact ⟨k, chunk, List.mem_singleton.mp inside⟩

/-- Whatever was sent before, the chunks of a blob are what is stored of it. -/
theorem blob_stored {blob : List UInt8} {upload : List ProvisioningEvent}
    (uploads : ∀ e ∈ upload, e.Uploads blob)
    (complete : ∀ k < chunkCount blob, ∃ e ∈ upload, e.write = [chunkWrite blob k])
    (writes : List (Write UInt8)) {i : Nat} (inside : i < blob.length) :
    blob[i]? = some (storedByte (run sinceRestart writes upload) i) := by
  have chunk : i / 62 < chunkCount blob := by
    unfold chunkCount
    omega
  obtain ⟨e, among, is⟩ := complete (i / 62) chunk
  have member : chunkWrite blob (i / 62) ∈ upload.flatMap ProvisioningEvent.write :=
    List.mem_flatMap.mpr ⟨e, among, by rw [is]; exact List.mem_singleton_self _⟩
  have covered : (chunkWrite blob (i / 62)).covers i = true := by
    rw [Write.covers_iff, chunkWrite, length_chunk]
    dsimp only
    omega
  have copies : ∀ write ∈ upload.flatMap ProvisioningEvent.write, ∀ j < write.data.length,
      write.data[j]? = blob[write.offset + j]? := by
    intro write later
    obtain ⟨k, -, rfl⟩ := uploads_chunk uploads later
    exact chunk_copies blob [k] _ (List.mem_singleton_self _)
  have last := Write.last_of_copies copies member covered
  have reached : i < furthest (run sinceRestart writes upload) := by
    rw [uploads_writes uploads]
    exact Nat.lt_of_lt_of_le (Write.covers_iff.mp covered).2
      (stop_furthest (List.mem_append_right _ member))
  unfold storedByte
  rw [if_pos reached, uploads_writes uploads, Write.last_append, last,
    List.getElem?_eq_getElem inside, Option.isSome_some, if_pos rfl, Option.getD_some]

def sendChunk (blob : List UInt8) (k : Nat) : ProvisioningEvent :=
  .request ⟨0, 0, 0⟩ (some .feature) 0x43 (chunkReport blob k)

theorem sendChunk_write {blob : List UInt8} (small : blob.length ≤ 4096) {k : Nat}
    (inside : k < chunkCount blob) : (sendChunk blob k).write = [chunkWrite blob k] := by
  have accepted : (sendChunk blob k).write = [(chunkReport blob k).write] :=
    if_pos ⟨rfl, rfl, chunkReport_fits small inside⟩
  rw [accepted, chunkReport_write small inside]

/-- Whatever has been sent, stored and interrupted before, the record that is found after a flush
and a restart is the one that the writes since the restart before it make up: none without the
first byte, and the record of a blob whose chunks were all sent, in any order and over any other
writes. -/
theorem record_found {fw : Firmware} (enabled : fw.runtimeProvisioning = true)
    (contents : List UInt8) (before after : List ProvisioningEvent)
    (quiet : ∀ e ∈ after, ¬ e.Erases) {found : List UInt8}
    (restarted : .restart found ∈ after) :
    let writes := run sinceRestart [] before
    let s := run (ProvisionedDevice.step fw) (.boot contents) (before ++ [flushed] ++ after)
    s.data = recordAt (storedByte writes) ∧
      ((∀ write ∈ writes, write.covers 0 = false) → s.data = none) ∧
      ∀ (blob : List UInt8) (record : ProvisioningData) (earlier upload : List ProvisioningEvent),
        record.bytes <+: blob → before = earlier ++ upload →
        (∀ e ∈ upload, e.Uploads blob) →
        (∀ k < chunkCount blob, ∃ e ∈ upload, e.write = [chunkWrite blob k]) →
        s.data = if record.Valid then some (some record) else none := by
  intro writes s
  have uploaded : Uploaded writes
      (run (ProvisionedDevice.step fw) (.boot contents) before).provisioning :=
    uploaded_run enabled (uploaded_boot _) before
  have data : s.data = recordAt (storedByte writes) := by
    have flash : ((run (ProvisionedDevice.step fw) (.boot contents) before).step fw
        flushed).provisioning.flash = _ :=
      congrArg (fun done => done.2.flash) (flushProvisioning_eq enabled _)
    have booted := quiet_booted enabled flash quiet restarted
    have whole : s = run (ProvisionedDevice.step fw)
        ((run (ProvisionedDevice.step fw) (.boot contents) before).step fw flushed) after := by
      simp only [s, run_append, run_cons, run_nil]
    rw [whole, booted.data]
    congr 1
    funext i
    exact uploaded.stored _ i
  refine ⟨data, ?_, ?_⟩
  · intro unsent
    have zero : (Write.last writes 0).isSome = false := by
      rw [Write.isSome_last, List.any_eq_false]
      intro write member
      rw [unsent write member]
      exact Bool.false_ne_true
    rw [data, recordAt, if_neg]
    intro valid
    have first := version_byte valid.1
    have unwritten : Write.last writes 0 = none :=
      Option.isNone_iff_eq_none.mp (Option.isSome_eq_false_iff.mp zero)
    rw [storedByte, unwritten] at first
    split at first <;> exact absurd first (by decide)
  · rintro blob record earlier upload ⟨tail, rfl⟩ rfl uploads complete
    have same : ∀ i < 136, record.bytes[i]? = some (storedByte writes i) := by
      intro i below
      have inside : i < record.bytes.length := by rwa [record.length_bytes]
      have stored := blob_stored uploads complete (run sinceRestart [] earlier) (i := i) (by
        rw [List.length_append]
        omega)
      rw [← run_append, List.getElem?_append_left inside] at stored
      exact stored
    rw [data, recordAt, record.read_bytes same]

def plRecord : ProvisioningData where
  version := provisioningV1
  boardName := [112, 108] ++ List.replicate 126 0
  ps4Key := 0x0803e088
  sized := by rw [List.length_append, List.length_replicate]; rfl

/-- The record, and the serial number of its key. -/
def plBlob : List UInt8 := plRecord.bytes ++ List.replicate 16 9

def otherBlob : List UInt8 := List.replicate 300 1

/-- Another blob is sent, and the flash can only be erased. -/
def failedUpload : List ProvisioningEvent := [sendChunk otherBlob 1, sendChunk otherBlob 4,
  .request ⟨0, 0, -5⟩ (some .feature) 0x44 ⟨0x44 :: flushMagic, by decide⟩]

def plOrder : List Nat := [2, 0, 1, 2]

theorem pl_found :
    (run (ProvisionedDevice.step ⟨true, false, 4096⟩) (.boot [])
      (failedUpload ++ plOrder.map (sendChunk plBlob) ++ [flushed] ++
        [sendChunk otherBlob 0, .restart []])).data = some (some plRecord) := by
  have length : plBlob.length = 152 := by
    rw [plBlob, List.length_append, plRecord.length_bytes, List.length_replicate]
  have small : plBlob.length ≤ 4096 := by omega
  have count : chunkCount plBlob = 3 := by rw [chunkCount, length]
  have uploads : ∀ e ∈ plOrder.map (sendChunk plBlob), e.Uploads plBlob := by
    intro e member
    obtain ⟨k, among, rfl⟩ := List.mem_map.mp member
    have inside : k < chunkCount plBlob := by
      have all : ∀ k ∈ plOrder, k < 3 := by decide
      rw [count]
      exact all k among
    exact .inr ⟨k, inside, sendChunk_write small inside⟩
  have complete : ∀ k < chunkCount plBlob, ∃ e ∈ plOrder.map (sendChunk plBlob),
      e.write = [chunkWrite plBlob k] := by
    intro k inside
    have all : ∀ k < 3, k ∈ plOrder := by decide
    rw [count] at inside
    exact ⟨_, List.mem_map_of_mem (all k inside), sendChunk_write small (by rwa [count])⟩
  have found := @record_found ⟨true, false, 4096⟩ rfl []
    (failedUpload ++ plOrder.map (sendChunk plBlob)) [sendChunk otherBlob 0, .restart []]
    (by decide) [] (List.mem_cons_of_mem _ List.mem_cons_self)
  exact (found.2.2 plBlob plRecord failedUpload _ (List.prefix_append _ _) rfl uploads
    complete).trans (if_pos (by decide))

end PassingLink.Memory
