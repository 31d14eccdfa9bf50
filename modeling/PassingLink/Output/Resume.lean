import PassingLink.Output.Detection

/-! The console that wakes up: `usb_status_cb` starts a detection over that has found nothing, and
leaves one alone that has. -/
namespace PassingLink.Output
open Input Lib

/-- `suspendTimestamp` is what `k_uptime_get` returned, in milliseconds. -/
structure Usb where
  probe : Probe
  suspendTimestamp : Option Int

/-- `stm32` is CONFIG_USB_DC_STM32. -/
def Probe.usbResetProbe (stm32 : Bool) (s : Probe) : Probe :=
  if stm32 then { s with bootProbeType := setBootProbe none } else s

/-- USB_DC_RESUME, where more than one output is built. The reboot is a work item. -/
def Usb.resume (c : Probing) (stm32 : Bool) (s : Usb) (now : Int) : Usb :=
  if c.outputs.outputCount > 1 then
    match s.suspendTimestamp, s.probe.hid with
    | some timestamp, some type =>
        let probe :=
          if s.probe.probeResult type = false ∧ now - timestamp > 1000 then
            { s.probe.usbResetProbe stm32 with rebooting := true }
          else s.probe
        ⟨probe, none⟩
    | _, _ => s
  else s

inductive UsbStatus where
  | probe (e : ProbeEvent)
  | suspend (now : Int)
  | resume (now : Int)

/-- A reboot forgets the timestamp. -/
def Usb.step (c : Probing) (stm32 : Bool) (s : Usb) : UsbStatus → Usb
  | .probe (.reboot input) =>
      { probe := s.probe.step c (.reboot input)
        suspendTimestamp := if s.probe.rebooting then none else s.suspendTimestamp }
  | .probe e => { s with probe := s.probe.step c e }
  | .suspend now => { s with suspendTimestamp := some now }
  | .resume now => s.resume c stm32 now

/-- What may come while a device waits for its console: packets, and sleeps. -/
inductive Idle where
  | usb (event : UsbEvent)
  | sleep (suspended resumed : Int)

def Idle.statuses : Idle → List UsbStatus
  | .usb event => [.probe (.usb event)]
  | .sleep suspended resumed => [.suspend suspended, .resume resumed]

/-- The search of a boot and what comes after it, the sleep of the console that ends the round,
and what comes until the reboot that may follow. -/
structure Round where
  windows : ProbeType → ProbeWindow
  traffic : List Idle
  suspended : Int
  resumed : Int
  late : List UsbEvent
  input : Option RawInputState

def Probing.search (c : Probing) (windows : ProbeType → ProbeWindow) : List ProbeEvent :=
  c.outputs.probed.flatMap fun type => c.window (windows type)

def Probing.round (c : Probing) (r : Round) : List UsbStatus :=
  (c.search r.windows).map .probe ++ r.traffic.flatMap Idle.statuses ++
    [.suspend r.suspended, .resume r.resumed] ++
    (r.late.map ProbeEvent.usb ++ [ProbeEvent.reboot r.input]).map .probe

/-- No console has shown itself, and of its sleeps only the last has been longer than a second. -/
structure Fruitless (c : Probing) (r : Round) : Prop where
  detected : c.outputs.detected r.windows = .ps4
  short : ∀ suspended resumed, Idle.sleep suspended resumed ∈ r.traffic →
    resumed - suspended ≤ 1000
  asleep : r.resumed - r.suspended > 1000
  automatic : r.input.bind (manualOverride c.board c.outputs) = none

/-! ### One round -/

section Rounds
variable {c : Probing} {stm32 : Bool}

theorem run_probe (s : Usb) (es : List ProbeEvent) :
    (run (Usb.step c stm32) s (es.map .probe)).probe = run (Probe.step c) s.probe es := by
  have forget (s : Usb) (e : ProbeEvent) :
      (s.step c stm32 (.probe e)).probe = s.probe.step c e := by
    cases e <;> rfl
  have mapped : run (Usb.step c stm32) s (es.map .probe) =
      run (fun s e => s.step c stm32 (.probe e)) s es := List.foldl_map
  rw [mapped]
  exact run_forget Usb.probe forget s es

/-- A search begins, with no reboot's type left behind. -/
def Begun (c : Probing) (s : Probe) : Prop :=
  ∃ before first rest, c.outputs.probed = first :: rest ∧ Trying c before first s

theorem boot_begun (ps4 : c.outputs.outputPs4 = true) (many : c.outputs.outputCount > 1)
    {bootProbeType : UInt64} (unset : getBootProbe bootProbeType = none)
    {input : Option RawInputState}
    (automatic : input.bind (manualOverride c.board c.outputs) = none) (tried : List ProbeType) :
    Begun c (c.boot bootProbeType tried input) := by
  obtain ⟨first, rest, shape⟩ : ∃ first rest, c.outputs.probed = first :: rest :=
    List.exists_cons_of_ne_nil (by rw [probed_eq ps4]; simp)
  have start : c.outputs.probeTypeFirst = some first := by
    rw [probed_first ps4, shape]
    rfl
  have present : c.outputs.probeTypeHid first = some first := by
    refine probed_present ?_
    rw [shape]
    exact List.mem_cons_self
  have absent : (if c.rebootProbe then getBootProbe (c.reset bootProbeType tried).bootProbeType
      else none) = none := by
    split
    · exact unset
    · rfl
  refine ⟨tried, first, rest, shape, ?_⟩
  unfold Probing.boot usbInit
  rw [if_pos many, usbProbe, absent]
  simp only [Option.isSome_none, Bool.false_eq_true, if_false, automatic, Probe.usbProbeStart,
    start]
  obtain ⟨keeps, nxHid, ps3Hid⟩ := displayProbe_keeps (c := c)
    { c.reset bootProbeType tried with currentProbe := some first } true first
  refine trying_of_ready ?_ present keeps.currentProbe
  exact ⟨fun _ => nxHid, fun _ => ps3Hid, keeps.usbIds,
    fun _ => (congrArg getBootProbe keeps.bootProbeType).trans unset, keeps.rebooting, keeps.tried⟩

/-- The search ends with the type that its windows detect. -/
theorem search_settled (ps4 : c.outputs.outputPs4 = true) (many : c.outputs.outputCount > 1)
    {s : Probe} (begun : Begun c s) (windows : ProbeType → ProbeWindow) :
    ∃ tried, Settled c tried (c.outputs.detected windows)
      (run (Probe.step c) s (c.search windows)) := by
  obtain ⟨before, first, rest, shape, trying⟩ := begun
  have whole : first :: rest <:+ c.outputs.probed := by rw [shape]
  obtain ⟨last, ends, settled⟩ := settled_of_trying ps4 many windows whole trying
  rw [← shape] at ends settled
  have same : c.outputs.detected windows = last :=
    Option.some.inj ((attempts_last ps4 windows).symm.trans ends)
  rw [same]
  exact ⟨_, settled⟩

/-- A device that has found nothing goes on waiting through a short sleep. -/
theorem resume_waits {s : Usb} {tried : List ProbeType} (settled : Settled c tried .ps4 s.probe)
    {suspended resumed : Int} (short : resumed - suspended ≤ 1000) :
    (({ s with suspendTimestamp := some suspended } : Usb).resume c stm32 resumed).probe =
      s.probe := by
  unfold Usb.resume
  split
  · dsimp only
    rw [settled.hid]
    exact if_neg fun asleep => Int.not_lt.mpr short asleep.2
  · rfl

theorem idle_settled {s : Usb} {tried : List ProbeType} (settled : Settled c tried .ps4 s.probe)
    {traffic : List Idle}
    (short : ∀ suspended resumed, Idle.sleep suspended resumed ∈ traffic →
      resumed - suspended ≤ 1000) :
    Settled c tried .ps4 (run (Usb.step c stm32) s (traffic.flatMap Idle.statuses)).probe := by
  induction traffic generalizing s with
  | nil => exact settled
  | cons idle traffic ih =>
      rw [List.flatMap_cons, run_append]
      refine ih ?_ fun suspended resumed member =>
        short suspended resumed (List.mem_cons_of_mem _ member)
      cases idle with
      | usb event => exact settled_run settled [.usb event]
      | sleep suspended resumed =>
          have waits := @resume_waits c stm32 s tried settled suspended resumed
            (short suspended resumed List.mem_cons_self)
          exact waits.symm ▸ settled

theorem resume_retries {s : Usb} {tried : List ProbeType} (many : c.outputs.outputCount > 1)
    (settled : Settled c tried .ps4 s.probe) {suspended resumed : Int}
    (asleep : resumed - suspended > 1000) :
    (({ s with suspendTimestamp := some suspended } : Usb).resume c stm32 resumed).probe =
      { s.probe.usbResetProbe stm32 with rebooting := true } := by
  unfold Usb.resume
  rw [if_pos many]
  dsimp only
  rw [settled.hid]
  exact if_pos ⟨rfl, asleep⟩

theorem round_begun (ps4 : c.outputs.outputPs4 = true) (many : c.outputs.outputCount > 1)
    {s : Usb} (begun : Begun c s.probe) {r : Round} (fruitless : Fruitless c r) :
    Begun c (run (Usb.step c stm32) s (c.round r)).probe := by
  obtain ⟨tried, settled⟩ := search_settled ps4 many begun r.windows
  rw [fruitless.detected] at settled
  unfold Probing.round
  rw [run_append, run_append, run_probe]
  have slept : Settled c tried .ps4 (run (Usb.step c stm32) s
      ((c.search r.windows).map .probe ++ r.traffic.flatMap Idle.statuses)).probe := by
    rw [run_append]
    refine idle_settled ?_ fruitless.short
    rw [run_probe]
    exact settled
  generalize run (Usb.step c stm32) s
    ((c.search r.windows).map .probe ++ r.traffic.flatMap Idle.statuses) = s' at slept
  have woken : (run (Usb.step c stm32) s' [.suspend r.suspended, .resume r.resumed]).probe =
      { s'.probe.usbResetProbe stm32 with rebooting := true } :=
    resume_retries many slept fruitless.asleep
  rw [woken, run_append, run_traffic]
  have late := traffic_keeps (c := c)
    { s'.probe.usbResetProbe stm32 with rebooting := true } r.late
  rw [run_cons, run_nil, Probe.step, late.rebooting, if_pos rfl, late.bootProbeType]
  refine boot_begun ps4 many ?_ fruitless.automatic _
  unfold Probe.usbResetProbe
  split
  · rfl
  · exact slept.bootProbeType

theorem rounds_begun (ps4 : c.outputs.outputPs4 = true) (many : c.outputs.outputCount > 1)
    {rounds : List Round} (fruitless : ∀ r ∈ rounds, Fruitless c r) {s : Usb}
    (begun : Begun c s.probe) :
    Begun c (run (Usb.step c stm32) s (rounds.flatMap c.round)).probe := by
  induction rounds generalizing s with
  | nil => exact begun
  | cons r rounds ih =>
      rw [List.flatMap_cons, run_append]
      exact ih (fun r member => fruitless r (List.mem_cons_of_mem _ member))
        (round_begun ps4 many begun (fruitless r List.mem_cons_self))

end Rounds

/-! ### A console that has shown itself -/

/-- `type` has been selected, and its HID says so whenever it is asked. -/
structure Proven (c : Probing) (type : ProbeType) (s : Probe) : Prop where
  hid : s.hid = some type
  usbIds : s.usbIds = c.identity type
  probeCheck : s.probeCheck = none
  rebooting : s.rebooting = false
  result : s.probeResult type = true

/-- A PS3 does not take its number back. -/
def Retained (type : ProbeType) (events : List UsbEvent) : Prop :=
  type = .ps3 → ∀ event ∈ events, event.controllerNumber ≠ some 0xff

section Proven
variable {c : Probing} {stm32 : Bool} {type : ProbeType}

theorem usb_result {s : Probe} (hid : s.hid = some type) (result : s.probeResult type = true)
    {event : UsbEvent} (retained : Retained type [event]) :
    (s.usb c event).probeResult type = true := by
  cases type with
  | nx =>
      have flags := nxHid_traffic (c := c) hid [event]
      obtain ⟨input, output⟩ := Bool.and_eq_true_iff.mp result
      rw [input, output, Bool.true_or, Bool.true_or] at flags
      exact congrArg NXHid.probeResult flags
  | ps3 =>
      have number := ps3Hid_traffic (c := c) hid [event]
      have kept : (s.usb c event).ps3Hid.controllerNumber ≠ 0xff := by
        have last : (s.usb c event).ps3Hid.controllerNumber =
            event.controllerNumber.getD s.ps3Hid.controllerNumber := by
          refine number.trans ?_
          cases assigned : event.controllerNumber with
          | none => rw [List.filterMap_cons_none assigned]; rfl
          | some number => rw [List.filterMap_cons_some assigned]; rfl
        rw [last]
        cases assigned : event.controllerNumber with
        | none => exact of_decide_eq_true result
        | some number =>
            intro same
            have never := retained rfl event (List.mem_singleton.mpr rfl)
            rw [assigned] at never
            exact never (congrArg some same)
      exact decide_eq_true kept
  | ps4 => cases result

/-- The traffic of an event. -/
def ProbeEvent.traffic : ProbeEvent → List UsbEvent
  | .usb event => [event]
  | _ => []

def UsbStatus.traffic : UsbStatus → List UsbEvent
  | .probe e => e.traffic
  | _ => []

theorem Proven.probe {s : Probe} (proven : Proven c type s) {e : ProbeEvent}
    (retained : Retained type e.traffic) : Proven c type (s.step c e) := by
  cases e with
  | usb event =>
      have keeps := usb_keeps (c := c) s event
      exact ⟨keeps.hid.trans proven.hid, keeps.usbIds.trans proven.usbIds,
        keeps.probeCheck.trans proven.probeCheck, keeps.rebooting.trans proven.rebooting,
        usb_result proven.hid proven.result retained⟩
  | check =>
      rw [Probe.step, proven.probeCheck, Option.isSome_none, if_neg Bool.false_ne_true]
      exact proven
  | reboot input =>
      rw [Probe.step, proven.rebooting, if_neg Bool.false_ne_true]
      exact proven

theorem Retained.left {first second : List UsbEvent} (retained : Retained type (first ++ second)) :
    Retained type first :=
  fun ps3 event member => retained ps3 event (List.mem_append_left second member)

theorem Retained.right {first second : List UsbEvent}
    (retained : Retained type (first ++ second)) : Retained type second :=
  fun ps3 event member => retained ps3 event (List.mem_append_right first member)

theorem Retained.member {es : List ProbeEvent}
    (retained : Retained type (es.flatMap ProbeEvent.traffic)) {e : ProbeEvent} (member : e ∈ es) :
    Retained type e.traffic :=
  fun ps3 event inside => retained ps3 event (List.mem_flatMap.mpr ⟨e, member, inside⟩)

theorem Proven.run {s : Probe} (proven : Proven c type s) {es : List ProbeEvent}
    (retained : Retained type (es.flatMap ProbeEvent.traffic)) :
    Proven c type (run (Probe.step c) s es) :=
  run_invariant_of_legal (fun _ _ retained proven => proven.probe retained) proven
    (along_of_forall (fun _ member _ => retained.member member) s)

/-- A resume finds nothing to do, however long the console has slept. -/
theorem Proven.step {s : Usb} (proven : Proven c type s.probe) {e : UsbStatus}
    (retained : Retained type e.traffic) : Proven c type (s.step c stm32 e).probe := by
  cases e with
  | probe e =>
      have moved : (s.step c stm32 (.probe e)).probe = s.probe.step c e := by
        cases e <;> rfl
      rw [moved]
      exact proven.probe retained
  | suspend now => exact proven
  | resume now =>
      change Proven c type (s.resume c stm32 now).probe
      unfold Usb.resume
      split
      · rw [proven.hid]
        cases s.suspendTimestamp with
        | none => exact proven
        | some timestamp =>
            dsimp only
            rw [proven.result, if_neg fun both => Bool.true_eq_false.mp both.1]
            exact proven
      · exact proven

theorem Proven.statuses {s : Usb} (proven : Proven c type s.probe) {es : List UsbStatus}
    (retained : Retained type (es.flatMap UsbStatus.traffic)) :
    Proven c type (Lib.run (Usb.step c stm32) s es).probe := by
  have legal : Along (Usb.step c stm32) (fun _ e => Retained type e.traffic) s es :=
    along_of_forall (fun e member _ ps3 event inside =>
      retained ps3 event (List.mem_flatMap.mpr ⟨e, member, inside⟩)) s
  have preserved (s : Usb) (e : UsbStatus) (retained : Retained type e.traffic)
      (proven : Proven c type s.probe) : Proven c type (s.step c stm32 e).probe :=
    proven.step retained
  exact run_invariant_of_legal preserved proven legal

/-! ### The search in which it shows itself -/

theorem usbProbeSelected_hids (s : Probe) (type : ProbeType) :
    (s.usbProbeSelected c type).nxHid = s.nxHid ∧
      (s.usbProbeSelected c type).ps3Hid = s.ps3Hid := by
  unfold Probe.usbProbeSelected Probe.displayProbe
  dsimp only
  split <;> split <;> exact ⟨rfl, rfl⟩

theorem probeResult_congr {s s' : Probe} (hids : s'.nxHid = s.nxHid ∧ s'.ps3Hid = s.ps3Hid)
    (type : ProbeType) : s'.probeResult type = s.probeResult type := by
  cases type with
  | nx => exact congrArg NXHid.probeResult hids.1
  | ps3 => exact congrArg PS3Hid.probeResult hids.2
  | ps4 => rfl

/-- What comes in a window after its check. -/
def Probing.rest (c : Probing) (w : ProbeWindow) : List ProbeEvent :=
  if c.rebootProbe then w.late.map .usb ++ [.reboot w.input] else []

theorem window_proven {before : List ProbeType} {s : Probe} (trying : Trying c before type s)
    (w : ProbeWindow) (found : evidence type w.traffic = true)
    (retained : Retained type ((c.rest w).flatMap ProbeEvent.traffic)) :
    Proven c type (Lib.run (Probe.step c) s (c.window w)) := by
  have checked := checked_of_trying trying w.traffic
  have settled := usbProbeSelected_settled checked
  rw [window_run trying, usbProbeCheck_selected checked (.inl found)]
  have selected : Proven c type ((s.checked c w.traffic).usbProbeSelected c type) := by
    refine ⟨settled.hid, settled.usbIds, settled.probeCheck, settled.rebooting, ?_⟩
    rw [probeResult_congr (usbProbeSelected_hids _ type) type]
    exact checked.result.trans found
  exact selected.run retained

end Proven

/-- The traffic that reaches the HID of the type once it has been selected. -/
def Probing.later (c : Probing) (windows : ProbeType → ProbeWindow) (type : ProbeType) :
    List ProbeEvent :=
  c.rest (windows type) ++
    (c.outputs.probed.dropWhile (· ≠ type)).tail.flatMap fun type => c.window (windows type)

section Found
variable {c : Probing} {stm32 : Bool} {type : ProbeType}

theorem proven_of_trying (ps4 : c.outputs.outputPs4 = true) (many : c.outputs.outputCount > 1)
    (windows : ProbeType → ProbeWindow) {first : ProbeType} {rest before : List ProbeType}
    {s : Probe} (suffix : first :: rest <:+ c.outputs.probed) (trying : Trying c before first s)
    (found : (first :: rest).find? (probeFound windows) = some type)
    (retained : Retained type ((c.rest (windows type) ++
      ((first :: rest).dropWhile (· ≠ type)).tail.flatMap fun type =>
        c.window (windows type)).flatMap ProbeEvent.traffic)) :
    Proven c type (run (Probe.step c) s
      ((first :: rest).flatMap fun type => c.window (windows type))) := by
  have stops {first : ProbeType} {rest : List ProbeType} (is : first = type) :
      (first :: rest).dropWhile (· ≠ type) = first :: rest :=
    List.dropWhile_cons_of_neg (by simp [is])
  induction rest generalizing first before s with
  | nil =>
      obtain ⟨outcome, rfl⟩ :=
        Option.ite_some_none_eq_some.mp ((List.find?_singleton ..).symm.trans found)
      rw [stops rfl, List.tail_cons, List.flatMap_nil, List.append_nil] at retained
      rw [List.flatMap_singleton]
      exact window_proven trying _ outcome retained
  | cons next rest ih =>
      rw [List.flatMap_cons, run_append]
      cases outcome : probeFound windows first with
      | true =>
          rw [List.find?_cons_of_pos outcome] at found
          obtain rfl := Option.some.inj found
          rw [stops rfl, List.tail_cons, List.flatMap_append] at retained
          have own := window_proven trying _ outcome retained.left
          exact own.run retained.right
      | false =>
          rw [List.find?_cons_of_neg (by rw [outcome]; exact Bool.false_ne_true)] at found
          have other : first ≠ type := by
            rintro rfl
            exact Bool.false_ne_true (outcome.symm.trans (List.find?_some found))
          have skips : (first :: next :: rest).dropWhile (· ≠ type) =
              (next :: rest).dropWhile (· ≠ type) :=
            List.dropWhile_cons_of_pos (decide_eq_true other)
          rw [skips] at retained
          have follows := probed_next ps4 suffix
          have later : next :: rest <:+ c.outputs.probed := (List.suffix_cons first _).trans suffix
          have present := probed_present (later.mem List.mem_cons_self)
          exact ih later (window_missed trying (windows first) outcome follows present many) found
            retained

theorem search_proven (ps4 : c.outputs.outputPs4 = true) (many : c.outputs.outputCount > 1)
    {s : Probe} (begun : Begun c s) (windows : ProbeType → ProbeWindow)
    (found : c.outputs.probed.find? (probeFound windows) = some type)
    (retained : Retained type ((c.later windows type).flatMap ProbeEvent.traffic)) :
    Proven c type (run (Probe.step c) s (c.search windows)) := by
  obtain ⟨before, first, rest, shape, trying⟩ := begun
  have whole : first :: rest <:+ c.outputs.probed := by rw [shape]
  unfold Probing.later at retained
  unfold Probing.search
  rw [shape] at found retained ⊢
  exact proven_of_trying ps4 many windows whole trying found retained

end Found

/-- However often the search has ended with no console to be found and been started over after a
sleep, the first search in which a console shows itself finds it; and from then on no suspend,
resume, check or packet makes the device leave it. -/
theorem found_and_kept (c : Probing) (stm32 : Bool) (ps4 : c.outputs.outputPs4 = true)
    (many : c.outputs.outputCount > 1) {bootProbeType : UInt64}
    (garbage : ∀ type : ProbeType, bootProbeType ≠ type.value) {input : Option RawInputState}
    (automatic : input.bind (manualOverride c.board c.outputs) = none)
    (rounds : List Round) (fruitless : ∀ r ∈ rounds, Fruitless c r)
    (windows : ProbeType → ProbeWindow) {type : ProbeType}
    (found : c.outputs.probed.find? (probeFound windows) = some type) (after : List UsbStatus)
    (retained : Retained type ((c.later windows type).flatMap ProbeEvent.traffic ++
      after.flatMap UsbStatus.traffic)) :
    let boot : Usb := ⟨c.boot bootProbeType [] input, none⟩
    let s := run (Usb.step c stm32) boot
      (rounds.flatMap c.round ++ (c.search windows).map .probe ++ after)
    s.probe.hid = some type ∧ s.probe.usbIds = c.identity type ∧ s.probe.probeCheck = none ∧
      s.probe.rebooting = false := by
  intro boot s
  have unset : getBootProbe bootProbeType = none := by
    rw [getBootProbe, if_neg (garbage .nx), if_neg (garbage .ps3), if_neg (garbage .ps4)]
  have first : Begun c boot.probe := boot_begun ps4 many unset automatic []
  have last : Begun c (run (Usb.step c stm32) boot (rounds.flatMap c.round)).probe :=
    rounds_begun ps4 many fruitless first
  have reached : Proven c type (run (Usb.step c stm32) boot
      (rounds.flatMap c.round ++ (c.search windows).map .probe)).probe := by
    rw [run_append, run_probe]
    exact search_proven ps4 many last windows found retained.left
  have kept : Proven c type s.probe := by
    change Proven c type (run (Usb.step c stm32) boot _).probe
    rw [run_append]
    exact reached.statuses retained.right
  exact ⟨kept.hid, kept.usbIds, kept.probeCheck, kept.rebooting⟩

/-- The console is off, and wakes up after half a second and then after four seconds. -/
def offRound : Round :=
  ⟨fun _ => ⟨[], [], none⟩, [.sleep 4000 4500], 5000, 9000, [], some RawInputState.released⟩

/-- The PS3 that has woken up is found, and is not given up when it sleeps again. -/
theorem woken_ps3 :
    let c : Probing := ⟨microdash, everyOutput, true⟩
    let boot : Usb := ⟨c.boot 7 [] (some RawInputState.released), none⟩
    let s := run (Usb.step c true) boot ([offRound].flatMap c.round ++
      (c.search ps3Windows).map .probe ++ [.suspend 20000, .resume 90000])
    s.probe.hid = some .ps3 ∧ s.probe.tried = [.nx, .ps3, .ps4, .nx, .ps3] := by
  have garbage : ∀ type : ProbeType, (7 : UInt64) ≠ type.value := by
    intro type
    cases type <;> decide
  have automatic : (some RawInputState.released).bind (manualOverride microdash everyOutput) =
      none := by decide
  have fruitless : ∀ r ∈ [offRound], Fruitless ⟨microdash, everyOutput, true⟩ r := by
    intro r member
    rw [List.mem_singleton.mp member]
    refine ⟨by decide, ?_, by decide, automatic⟩
    intro suspended resumed member
    obtain ⟨rfl, rfl⟩ := Idle.sleep.inj (List.mem_singleton.mp member)
    decide
  have found : everyOutput.probed.find? (probeFound ps3Windows) = some .ps3 := by decide
  have retained : ∀ event ∈
      (Probing.later ⟨microdash, everyOutput, true⟩ ps3Windows .ps3).flatMap ProbeEvent.traffic ++
        [UsbStatus.suspend 20000, .resume 90000].flatMap UsbStatus.traffic,
      event.controllerNumber ≠ some 0xff := by decide
  have kept := found_and_kept ⟨microdash, everyOutput, true⟩ true rfl (by decide) garbage automatic
    [offRound] fruitless ps3Windows found [.suspend 20000, .resume 90000] fun _ => retained
  exact ⟨kept.1, by decide +kernel⟩

end PassingLink.Output
