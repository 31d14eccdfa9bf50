import PassingLink.Lib.Attempts
import PassingLink.Output.Probe

/-! What the detection of the console ends with: both of its variants try the types in one order
and stay with the first that has shown its evidence. -/
namespace PassingLink.Output
open Input Lib

def UsbConfig.probes (c : UsbConfig) : ProbeType → Bool
  | .nx => c.switchProbe
  | .ps3 => c.ps3Probe
  | .ps4 => c.outputPs4

/-- The types that are looked for, in their order. -/
def UsbConfig.probed (c : UsbConfig) : List ProbeType := [ProbeType.nx, .ps3, .ps4].filter c.probes

def UsbEvent.haltCleared (input : Bool) : UsbEvent → Bool
  | .clearHalt endpoint => decide (endpoint &&& 0x80 ≠ 0) == input
  | .interruptOut _ => false

def UsbEvent.controllerNumber : UsbEvent → Option UInt8
  | .interruptOut buf => if buf.length = 8 then some (buf.getD 2 0) else none
  | .clearHalt _ => none

/-- What a console does to its own type: a Switch clears the halts of both endpoints, and a PS3
assigns a controller number. -/
def evidence : ProbeType → List UsbEvent → Bool
  | .nx, events => events.any (UsbEvent.haltCleared true) && events.any (UsbEvent.haltCleared false)
  | .ps3, events =>
      match (events.filterMap UsbEvent.controllerNumber).getLast? with
      | some number => number ≠ 0xff
      | none => false
  | .ps4, _ => false

/-- The traffic until the check of a type, and, if the check asks for a reboot, the traffic
until then and the inputs after it. -/
structure ProbeWindow where
  traffic : List UsbEvent
  late : List UsbEvent
  input : Option RawInputState

def Probing.window (c : Probing) (w : ProbeWindow) : List ProbeEvent :=
  w.traffic.map .usb ++
    .check :: if c.rebootProbe then w.late.map .usb ++ [.reboot w.input] else []

/-- From a cold boot on. Once a type is selected, the windows of the later types are more
traffic for this one. -/
def Probing.detect (c : Probing) (bootProbeType : UInt64) (input : Option RawInputState)
    (windows : ProbeType → ProbeWindow) (after : List ProbeEvent) : Probe :=
  run (Probe.step c) (c.boot bootProbeType [] input)
    (c.outputs.probed.flatMap (fun type => c.window (windows type)) ++ after)

def probeFound (windows : ProbeType → ProbeWindow) (type : ProbeType) : Bool :=
  evidence type (windows type).traffic

/-! ### The traffic of a window -/

/-- Nothing has changed but what the HIDs and the LEDs hold. -/
structure Keeps (s s' : Probe) : Prop where
  hid : s'.hid = s.hid
  usbIds : s'.usbIds = s.usbIds
  currentProbe : s'.currentProbe = s.currentProbe
  bootProbeType : s'.bootProbeType = s.bootProbeType
  probeCheck : s'.probeCheck = s.probeCheck
  rebooting : s'.rebooting = s.rebooting
  tried : s'.tried = s.tried

theorem Keeps.refl (s : Probe) : Keeps s s := ⟨rfl, rfl, rfl, rfl, rfl, rfl, rfl⟩

theorem Keeps.trans {s s' s'' : Probe} (first : Keeps s s') (second : Keeps s' s'') :
    Keeps s s'' where
  hid := second.hid.trans first.hid
  usbIds := second.usbIds.trans first.usbIds
  currentProbe := second.currentProbe.trans first.currentProbe
  bootProbeType := second.bootProbeType.trans first.bootProbeType
  probeCheck := second.probeCheck.trans first.probeCheck
  rebooting := second.rebooting.trans first.rebooting
  tried := second.tried.trans first.tried

section Traffic
variable {c : Probing}

theorem usb_keeps (s : Probe) (event : UsbEvent) : Keeps s (s.usb c event) := by
  unfold Probe.usb
  split <;> exact ⟨rfl, rfl, rfl, rfl, rfl, rfl, rfl⟩

/-- A run of the traffic alone. -/
def Probe.traffic (c : Probing) (s : Probe) (events : List UsbEvent) : Probe :=
  run (Probe.usb c) s events

theorem run_traffic (s : Probe) (events : List UsbEvent) :
    run (Probe.step c) s (events.map .usb) = s.traffic c events :=
  List.foldl_map

theorem traffic_keeps (s : Probe) (events : List UsbEvent) : Keeps s (s.traffic c events) :=
  run_invariant (fun s' event kept => kept.trans (usb_keeps s' event)) (Keeps.refl s) events

theorem nxHid_traffic {s : Probe} (nx : s.hid = some .nx) (events : List UsbEvent) :
    (s.traffic c events).nxHid =
      ⟨s.nxHid.inputHaltCleared || events.any (UsbEvent.haltCleared true),
        s.nxHid.outputHaltCleared || events.any (UsbEvent.haltCleared false)⟩ := by
  induction events generalizing s with
  | nil =>
      rw [List.any_nil, List.any_nil, Bool.or_false, Bool.or_false]
      rfl
  | cons event events ih =>
      have still : (s.usb c event).hid = some .nx := (usb_keeps s event).hid.trans nx
      have first : (s.usb c event).nxHid =
          ⟨s.nxHid.inputHaltCleared || event.haltCleared true,
            s.nxHid.outputHaltCleared || event.haltCleared false⟩ := by
        cases event with
        | clearHalt endpoint =>
            by_cases direction : endpoint &&& 0x80 ≠ 0 <;>
              simp [Probe.usb, nx, NXHid.clearHalt, UsbEvent.haltCleared, direction]
        | interruptOut buf => simp [Probe.usb, nx, UsbEvent.haltCleared]
      have rest := ih still
      rw [first] at rest
      rw [List.any_cons, List.any_cons, ← Bool.or_assoc, ← Bool.or_assoc]
      exact rest

theorem ps3Hid_kept {s : Probe} (other : s.hid ≠ some .ps3) (events : List UsbEvent) :
    (s.traffic c events).ps3Hid = s.ps3Hid := by
  induction events generalizing s with
  | nil => rfl
  | cons event events ih =>
      have still : (s.usb c event).hid ≠ some .ps3 := (usb_keeps s event).hid ▸ other
      have first : (s.usb c event).ps3Hid = s.ps3Hid := by
        unfold Probe.usb
        split
        · rfl
        · rename_i ps3
          exact absurd ps3 other
        · rfl
      exact (ih still).trans first

theorem ps3Hid_traffic {s : Probe} (ps3 : s.hid = some .ps3) (events : List UsbEvent) :
    (s.traffic c events).ps3Hid.controllerNumber =
      (events.filterMap UsbEvent.controllerNumber).getLast?.getD s.ps3Hid.controllerNumber := by
  induction events generalizing s with
  | nil => rfl
  | cons event events ih =>
      have still : (s.usb c event).hid = some .ps3 := (usb_keeps s event).hid.trans ps3
      have first : (s.usb c event).ps3Hid.controllerNumber =
          event.controllerNumber.getD s.ps3Hid.controllerNumber := by
        cases event with
        | clearHalt endpoint =>
            simp only [Probe.usb, ps3, UsbEvent.controllerNumber, Option.getD_none]
        | interruptOut buf =>
            by_cases eight : buf.length = 8 <;>
              simp [Probe.usb, ps3, PS3Hid.interruptOut, UsbEvent.controllerNumber, eight]
      have rest := ih still
      rw [first] at rest
      cases number : event.controllerNumber with
      | none =>
          rw [number, Option.getD_none] at rest
          rw [List.filterMap_cons_none number]
          exact rest
      | some number' =>
          rw [number, Option.getD_some] at rest
          rw [List.filterMap_cons_some number, List.getLast?_cons, Option.getD_some]
          exact rest

end Traffic

/-! ### Starting and ending a probe -/

/-- The identity under which a type is enumerated. -/
def Probing.identity (c : Probing) : ProbeType → UInt16 × UInt16
  | .nx => (0x0f0d, 0x0092)
  | .ps3 => (c.outputs.vendorId, c.outputs.productId)
  | .ps4 => (0x1532, 0x0401)

/-- `type` runs, its check is to come, and the HIDs after it are untouched. -/
structure Trying (c : Probing) (before : List ProbeType) (type : ProbeType) (s : Probe) : Prop where
  hid : s.hid = some type
  nxHid : type = .nx → s.nxHid = NXHid.init
  ps3Hid : type ≠ .ps4 → s.ps3Hid = PS3Hid.init
  usbIds : s.usbIds = c.identity type
  currentProbe : s.currentProbe = some type
  bootProbeType : c.rebootProbe = false → getBootProbe s.bootProbeType = none
  probeCheck : s.probeCheck.isSome = true
  rebooting : s.rebooting = false
  tried : s.tried = before ++ [type]

/-- `type` has been selected. -/
structure Settled (c : Probing) (tried : List ProbeType) (type : ProbeType) (s : Probe) : Prop where
  hid : s.hid = some type
  usbIds : s.usbIds = c.identity type
  bootProbeType : getBootProbe s.bootProbeType = none
  cleared : c.rebootProbe = true → c.outputs.outputCount > 1 → s.bootProbeType = 0
  probeCheck : s.probeCheck = none
  rebooting : s.rebooting = false
  tried : s.tried = tried

section Probing
variable {c : Probing} {type : ProbeType}

theorem displayProbe_keeps (s : Probe) (probing : Bool) (type : ProbeType) :
    Keeps s (s.displayProbe c probing type) ∧ (s.displayProbe c probing type).nxHid = s.nxHid ∧
      (s.displayProbe c probing type).ps3Hid = s.ps3Hid := by
  unfold Probe.displayProbe
  split <;> exact ⟨⟨rfl, rfl, rfl, rfl, rfl, rfl, rfl⟩, rfl, rfl⟩

/-- The state before a HID is initialised. -/
structure Ready (c : Probing) (before : List ProbeType) (type : ProbeType) (s : Probe) : Prop where
  nxHid : type = .nx → s.nxHid = NXHid.init
  ps3Hid : type ≠ .ps4 → s.ps3Hid = PS3Hid.init
  usbIds : s.usbIds = (c.outputs.vendorId, c.outputs.productId)
  bootProbeType : c.rebootProbe = false → getBootProbe s.bootProbeType = none
  rebooting : s.rebooting = false
  tried : s.tried = before

theorem trying_of_ready {s : Probe} {before : List ProbeType} (ready : Ready c before type s)
    (present : c.outputs.probeTypeHid type = some type) (current : s.currentProbe = some type) :
    Trying c before type (s.startHid c type) := by
  have tried : s.tried ++ [type] = before ++ [type] := congrArg (· ++ [type]) ready.tried
  unfold Probe.startHid
  rw [present]
  dsimp only
  generalize ledCalls c _ _ = leds
  generalize (LedState.ledSet _ _ _).1 = probeLedCounter
  cases type with
  | nx =>
      exact ⟨rfl, ready.nxHid, ready.ps3Hid, rfl, current, ready.bootProbeType, rfl,
        ready.rebooting, tried⟩
  | ps3 =>
      exact ⟨rfl, ready.nxHid, ready.ps3Hid, ready.usbIds, current, ready.bootProbeType, rfl,
        ready.rebooting, tried⟩
  | ps4 =>
      exact ⟨rfl, ready.nxHid, ready.ps3Hid, rfl, current, ready.bootProbeType, rfl,
        ready.rebooting, tried⟩

/-- What the traffic of a window shows is the evidence for the type, and no later HID sees it. -/
theorem probeResult_traffic {before : List ProbeType} {s : Probe} (trying : Trying c before type s)
    (events : List UsbEvent) : (s.traffic c events).probeResult type = evidence type events := by
  cases type with
  | nx =>
      simp only [Probe.probeResult, NXHid.probeResult, nxHid_traffic trying.hid,
        trying.nxHid rfl, NXHid.init, Bool.false_or, evidence]
  | ps3 =>
      have untouched : s.ps3Hid.controllerNumber = 0xff := by
        rw [trying.ps3Hid (by decide)]
        rfl
      simp only [Probe.probeResult, PS3Hid.probeResult, ps3Hid_traffic trying.hid, untouched,
        evidence]
      cases (events.filterMap UsbEvent.controllerNumber).getLast? <;> rfl
  | ps4 => rfl

theorem ps3Hid_traffic_nx {before : List ProbeType} {s : Probe} (trying : Trying c before .nx s)
    (events : List UsbEvent) : (s.traffic c events).ps3Hid = PS3Hid.init := by
  have other : s.hid ≠ some .ps3 := by
    rw [trying.hid]
    decide
  rw [ps3Hid_kept other, trying.ps3Hid (by decide)]

/-- After the selection nothing is left to run. -/
theorem settled_run {s : Probe} {tried : List ProbeType} (settled : Settled c tried type s)
    (events : List ProbeEvent) : Settled c tried type (run (Probe.step c) s events) := by
  refine run_invariant (fun s event settled => ?_) settled events
  cases event with
  | usb event =>
      have keeps := usb_keeps (c := c) s event
      exact ⟨keeps.hid.trans settled.hid, keeps.usbIds.trans settled.usbIds,
        keeps.bootProbeType ▸ settled.bootProbeType,
        fun reboot many => keeps.bootProbeType.trans (settled.cleared reboot many),
        keeps.probeCheck.trans settled.probeCheck, keeps.rebooting.trans settled.rebooting,
        keeps.tried.trans settled.tried⟩
  | check =>
      rw [Probe.step, settled.probeCheck, Option.isSome_none, if_neg Bool.false_ne_true]
      exact settled
  | reboot input =>
      rw [Probe.step, settled.rebooting, if_neg Bool.false_ne_true]
      exact settled

theorem getBootProbe_setBootProbe (type : ProbeType) :
    getBootProbe (setBootProbe (some type)) = some type := by
  cases type <;> rfl

/-- The boot that a failed check has asked for. -/
theorem boot_next (variant : c.rebootProbe = true) (many : c.outputs.outputCount > 1)
    (present : c.outputs.probeTypeHid type = some type) (tried : List ProbeType)
    (input : Option RawInputState) :
    Trying c tried type (c.boot (setBootProbe (some type)) tried input) := by
  have kept : getBootProbe (c.reset (setBootProbe (some type)) tried).bootProbeType = some type :=
    getBootProbe_setBootProbe type
  unfold Probing.boot usbInit
  rw [if_pos many, usbProbe, if_pos variant, kept]
  refine trying_of_ready ?_ present rfl
  refine ⟨fun _ => rfl, fun _ => rfl, rfl, fun inPlace => ?_, rfl, rfl⟩
  exact absurd (variant.symm.trans inPlace) Bool.true_eq_false.mp

/-- The cold boot. -/
theorem boot_first {bootProbeType : UInt64} {input : Option RawInputState}
    (many : c.outputs.outputCount > 1) (first : c.outputs.probeTypeFirst = some type)
    (present : c.outputs.probeTypeHid type = some type)
    (unset : getBootProbe bootProbeType = none)
    (automatic : input.bind (manualOverride c.board c.outputs) = none) :
    Trying c [] type (c.boot bootProbeType [] input) := by
  have absent : (if c.rebootProbe then getBootProbe (c.reset bootProbeType []).bootProbeType
      else none) = none := by
    split
    · exact unset
    · rfl
  unfold Probing.boot usbInit
  rw [if_pos many, usbProbe, absent]
  simp only [Option.isSome_none, Bool.false_eq_true, if_false, automatic, Probe.usbProbeStart, first]
  obtain ⟨keeps, nxHid, ps3Hid⟩ := displayProbe_keeps (c := c)
    { c.reset bootProbeType [] with currentProbe := some type } true type
  refine trying_of_ready ?_ present keeps.currentProbe
  exact ⟨fun _ => nxHid, fun _ => ps3Hid, keeps.usbIds,
    fun _ => (congrArg getBootProbe keeps.bootProbeType).trans unset, keeps.rebooting, keeps.tried⟩

/-! ### One window -/

/-- The check of `type` runs, after a window with this traffic. -/
structure Checked (c : Probing) (before : List ProbeType) (type : ProbeType)
    (traffic : List UsbEvent) (s : Probe) : Prop where
  hid : s.hid = some type
  ps3Hid : type = .nx → s.ps3Hid = PS3Hid.init
  usbIds : s.usbIds = c.identity type
  currentProbe : s.currentProbe = some type
  bootProbeType : c.rebootProbe = false → getBootProbe s.bootProbeType = none
  probeCheck : s.probeCheck = none
  rebooting : s.rebooting = false
  tried : s.tried = before ++ [type]
  result : s.probeResult type = evidence type traffic

def Probe.checked (c : Probing) (s : Probe) (traffic : List UsbEvent) : Probe :=
  { s.traffic c traffic with probeCheck := none }

theorem checked_of_trying {before : List ProbeType} {s : Probe} (trying : Trying c before type s)
    (traffic : List UsbEvent) : Checked c before type traffic (s.checked c traffic) := by
  have keeps := traffic_keeps (c := c) s traffic
  constructor
  · exact keeps.hid.trans trying.hid
  · rintro rfl
    exact ps3Hid_traffic_nx trying traffic
  · exact keeps.usbIds.trans trying.usbIds
  · exact keeps.currentProbe.trans trying.currentProbe
  · intro inPlace
    exact (congrArg getBootProbe keeps.bootProbeType).trans (trying.bootProbeType inPlace)
  · rfl
  · exact keeps.rebooting.trans trying.rebooting
  · exact keeps.tried.trans trying.tried
  · rw [← probeResult_traffic trying traffic]
    cases type <;> rfl

theorem window_run {before : List ProbeType} {s : Probe} (trying : Trying c before type s)
    (w : ProbeWindow) :
    run (Probe.step c) s (c.window w) =
      run (Probe.step c) ((s.checked c w.traffic).usbProbeCheck c)
        (if c.rebootProbe then w.late.map .usb ++ [.reboot w.input] else []) := by
  have pending : (s.traffic c w.traffic).probeCheck.isSome = true := by
    rw [(traffic_keeps s w.traffic).probeCheck]
    exact trying.probeCheck
  rw [Probing.window, run_append, run_cons, run_traffic, Probe.step, if_pos pending]
  rfl

section Check
variable {before : List ProbeType} {traffic : List UsbEvent} {s : Probe}

theorem usbProbeSelected_settled (checked : Checked c before type traffic s) :
    Settled c (before ++ [type]) type (s.usbProbeSelected c type) := by
  unfold Probe.usbProbeSelected
  dsimp only
  generalize ledCalls c _ _ = leds
  have keeps := (displayProbe_keeps (c := c) { s with leds } false type).1
  generalize Probe.displayProbe c _ _ _ = s' at keeps ⊢
  have hid := keeps.hid.trans checked.hid
  have usbIds := keeps.usbIds.trans checked.usbIds
  have probeCheck := keeps.probeCheck.trans checked.probeCheck
  have rebooting := keeps.rebooting.trans checked.rebooting
  have tried := keeps.tried.trans checked.tried
  cases variant : c.rebootProbe with
  | true =>
      rw [if_pos rfl]
      exact ⟨hid, usbIds, rfl, fun _ _ => rfl, probeCheck, rebooting, tried⟩
  | false =>
      rw [if_neg Bool.false_ne_true]
      have unset := (congrArg getBootProbe keeps.bootProbeType).trans
        (checked.bootProbeType variant)
      refine ⟨hid, usbIds, unset, fun reboot => ?_, probeCheck, rebooting, tried⟩
      exact absurd (variant.symm.trans reboot) Bool.false_ne_true

theorem usbProbeCheck_selected (checked : Checked c before type traffic s)
    (done : evidence type traffic = true ∨ c.outputs.probeTypeNext type = none) :
    s.usbProbeCheck c = s.usbProbeSelected c type := by
  unfold Probe.usbProbeCheck
  rw [checked.currentProbe]
  dsimp only
  rw [checked.result]
  rcases done with found | last
  · rw [if_pos found]
  · rw [last]
    split <;> rfl

theorem usbProbeCheck_missed (checked : Checked c before type traffic s)
    (missed : evidence type traffic = false) {next : ProbeType}
    (follows : c.outputs.probeTypeNext type = some next) :
    s.usbProbeCheck c =
      if c.rebootProbe then { s with bootProbeType := setBootProbe (some next), rebooting := true }
      else { s.usbHidUninit c with currentProbe := some next }.startHid c next := by
  unfold Probe.usbProbeCheck
  split
  · rename_i absent
    exact absurd (checked.currentProbe.symm.trans absent) (Option.some_ne_none type)
  · rename_i type' current
    obtain rfl : type = type' := Option.some.inj (checked.currentProbe.symm.trans current)
    rw [checked.result, missed, if_neg Bool.false_ne_true, follows]
    rfl

/-- NX comes after no type, and PS3 after NX only. -/
theorem follows_cases {c : UsbConfig} {next : ProbeType}
    (follows : c.probeTypeNext type = some next) : (type = .nx ∧ next = .ps3) ∨ next = .ps4 := by
  have last {next : ProbeType} (last : (if c.outputPs4 then some .ps4 else none) = some next) :
      next = .ps4 := by
    split at last
    · exact (Option.some.inj last).symm
    · cases last
  cases type with
  | nx =>
      rw [UsbConfig.probeTypeNext] at follows
      split at follows
      · exact Or.inl ⟨rfl, (Option.some.inj follows).symm⟩
      · exact Or.inr (last follows)
  | ps3 => exact Or.inr (last follows)
  | ps4 => cases follows

theorem usbHidUninit_ready (checked : Checked c before type traffic s) {next : ProbeType}
    (follows : c.outputs.probeTypeNext type = some next) :
    Ready c (before ++ [type]) next { s.usbHidUninit c with currentProbe := some next } := by
  have nxHid : next = .nx → s.nxHid = NXHid.init := by
    rintro rfl
    rcases follows_cases follows with ⟨-, different⟩ | different <;> cases different
  have ps3Hid : next ≠ .ps4 → s.ps3Hid = PS3Hid.init := by
    intro other
    rcases follows_cases follows with ⟨nx, -⟩ | last
    · exact checked.ps3Hid nx
    · exact absurd last other
  unfold Probe.usbHidUninit
  rw [checked.hid]
  cases type with
  | nx =>
      exact ⟨nxHid, ps3Hid, rfl, checked.bootProbeType, checked.rebooting, checked.tried⟩
  | ps3 =>
      exact ⟨nxHid, ps3Hid, checked.usbIds, checked.bootProbeType, checked.rebooting,
        checked.tried⟩
  | ps4 =>
      exact ⟨nxHid, ps3Hid, rfl, checked.bootProbeType, checked.rebooting, checked.tried⟩

end Check

theorem window_selected {before : List ProbeType} {s : Probe} (trying : Trying c before type s)
    (w : ProbeWindow)
    (done : evidence type w.traffic = true ∨ c.outputs.probeTypeNext type = none) :
    Settled c (before ++ [type]) type (run (Probe.step c) s (c.window w)) := by
  have checked := checked_of_trying trying w.traffic
  rw [window_run trying, usbProbeCheck_selected checked done]
  exact settled_run (usbProbeSelected_settled checked) _

theorem window_missed {before : List ProbeType} {s : Probe} (trying : Trying c before type s)
    (w : ProbeWindow) (missed : evidence type w.traffic = false) {next : ProbeType}
    (follows : c.outputs.probeTypeNext type = some next)
    (present : c.outputs.probeTypeHid next = some next) (many : c.outputs.outputCount > 1) :
    Trying c (before ++ [type]) next (run (Probe.step c) s (c.window w)) := by
  have checked := checked_of_trying trying w.traffic
  rw [window_run trying, usbProbeCheck_missed checked missed follows]
  cases variant : c.rebootProbe with
  | true =>
      rw [if_pos rfl, if_pos rfl, run_append, run_traffic]
      have late := traffic_keeps (c := c) { s.checked c w.traffic with
        bootProbeType := setBootProbe (some next), rebooting := true } w.late
      rw [run_cons, Probe.step, late.rebooting, if_pos rfl, late.bootProbeType, late.tried,
        checked.tried]
      exact boot_next variant many present _ w.input
  | false =>
      rw [if_neg Bool.false_ne_true, if_neg Bool.false_ne_true, run_nil]
      exact trying_of_ready (usbHidUninit_ready checked follows) present rfl

end Probing

/-! ### All windows -/

section Order
variable {c : UsbConfig} {type : ProbeType}

theorem probed_present (member : type ∈ c.probed) : c.probeTypeHid type = some type := by
  have probes := (List.mem_filter.mp member).2
  cases type with
  | nx => exact if_pos (c.switchProbe_output probes)
  | ps3 => exact if_pos (c.ps3Probe_output probes)
  | ps4 => exact if_pos probes

theorem probed_eq (ps4 : c.outputPs4 = true) :
    c.probed = (if c.switchProbe then [.nx] else []) ++ (if c.ps3Probe then [.ps3] else []) ++
      [.ps4] := by
  cases switch : c.switchProbe <;> cases ps3 : c.ps3Probe <;>
    simp [UsbConfig.probed, UsbConfig.probes, switch, ps3, ps4]

theorem probed_first (ps4 : c.outputPs4 = true) : c.probeTypeFirst = c.probed.head? := by
  rw [probed_eq ps4, UsbConfig.probeTypeFirst]
  cases c.switchProbe <;> cases c.ps3Probe <;> simp [ps4]

theorem probed_next (ps4 : c.outputPs4 = true) {rest : List ProbeType}
    (suffix : type :: rest <:+ c.probed) : c.probeTypeNext type = rest.head? := by
  rw [probed_eq ps4] at suffix
  cases switch : c.switchProbe <;> cases ps3 : c.ps3Probe <;>
    simp [switch, ps3, List.suffix_cons_iff] at suffix
  · obtain ⟨rfl, rfl⟩ := suffix
    rfl
  · rcases suffix with ⟨rfl, rfl⟩ | ⟨rfl, rfl⟩
    · exact if_pos ps4
    · rfl
  · rcases suffix with ⟨rfl, rfl⟩ | ⟨rfl, rfl⟩
    · simp [UsbConfig.probeTypeNext, ps3, ps4]
    · rfl
  · rcases suffix with ⟨rfl, rfl⟩ | ⟨rfl, rfl⟩ | ⟨rfl, rfl⟩
    · exact if_pos ps3
    · exact if_pos ps4
    · rfl

theorem probed_last (ps4 : c.outputPs4 = true) : c.probed.getLast? = some .ps4 := by
  rw [probed_eq ps4, List.getLast?_append]
  rfl

/-- With a single output nothing is looked for. -/
theorem probed_single (ps4 : c.outputPs4 = true) (single : ¬ c.outputCount > 1) :
    c.outputPs3 = false ∧ c.probed = [.ps4] := by
  have switch : c.outputSwitch = false := by
    cases output : c.outputSwitch with
    | false => rfl
    | true => exact absurd (by simp [UsbConfig.outputCount, output, ps4]) single
  have ps3 : c.outputPs3 = false := by
    cases output : c.outputPs3 with
    | false => rfl
    | true => exact absurd (by simp [UsbConfig.outputCount, output, ps4]) single
  have noSwitch : c.switchProbe = false :=
    Bool.eq_false_iff.mpr (mt c.switchProbe_output (Bool.eq_false_iff.mp switch))
  have noPs3 : c.ps3Probe = false :=
    Bool.eq_false_iff.mpr (mt c.ps3Probe_output (Bool.eq_false_iff.mp ps3))
  refine ⟨ps3, ?_⟩
  rw [probed_eq ps4, noSwitch, noPs3]
  rfl

end Order

/-- The windows from one type on: the check of each type that misses its evidence leads to the
next type. -/
theorem settled_of_trying {c : Probing} (ps4 : c.outputs.outputPs4 = true)
    (many : c.outputs.outputCount > 1) (windows : ProbeType → ProbeWindow) {type : ProbeType}
    {rest before : List ProbeType} {s : Probe} (suffix : type :: rest <:+ c.outputs.probed)
    (trying : Trying c before type s) :
    ∃ last, (attempts (probeFound windows) (type :: rest)).getLast? = some last ∧
      Settled c (before ++ attempts (probeFound windows) (type :: rest)) last
        (run (Probe.step c) s ((type :: rest).flatMap fun type => c.window (windows type))) := by
  induction rest generalizing type before s with
  | nil =>
      have next := probed_next ps4 suffix
      rw [List.flatMap_singleton]
      exact ⟨type, rfl, window_selected trying _ (Or.inr next)⟩
  | cons next rest ih =>
      have follows := probed_next ps4 suffix
      rw [List.flatMap_cons, run_append]
      cases outcome : probeFound windows type with
      | true =>
          rw [attempts_success outcome]
          exact ⟨type, rfl, settled_run (window_selected trying _ (Or.inl outcome)) _⟩
      | false =>
          have later : next :: rest <:+ c.outputs.probed := (List.suffix_cons type _).trans suffix
          have present := probed_present (later.mem List.mem_cons_self)
          have trying' := window_missed trying (windows type) outcome follows present many
          obtain ⟨last, ends, settled⟩ := ih later trying'
          rw [List.append_assoc] at settled
          rw [attempts_failure outcome (List.cons_ne_nil next rest)]
          refine ⟨last, ?_, settled⟩
          obtain ⟨first, more, shape⟩ := List.exists_cons_of_ne_nil
            (attempts_ne_nil (probeFound windows) (List.cons_ne_nil next rest))
          rw [shape] at ends ⊢
          rw [List.getLast?_cons_cons]
          exact ends

/-- The first type whose own window has shown its evidence, and PS4 when there is none. -/
def UsbConfig.detected (c : UsbConfig) (windows : ProbeType → ProbeWindow) : ProbeType :=
  (c.probed.find? (probeFound windows)).getD .ps4

structure Detected (c : Probing) (windows : ProbeType → ProbeWindow) (s : Probe) : Prop where
  tried : s.tried = attempts (probeFound windows) c.outputs.probed
  inOrder : s.tried.Sublist [.nx, .ps3, .ps4]
  hid : s.hid = some (c.outputs.detected windows)
  last : s.tried.getLast? = some (c.outputs.detected windows)
  usbIds : s.usbIds = c.identity (c.outputs.detected windows)
  finished : s.probeCheck = none ∧ s.rebooting = false
  cleared : getBootProbe s.bootProbeType = none
  zeroed : c.rebootProbe = true → c.outputs.outputCount > 1 → s.bootProbeType = 0

theorem attempts_last {c : UsbConfig} (ps4 : c.outputPs4 = true)
    (windows : ProbeType → ProbeWindow) :
    (attempts (probeFound windows) c.probed).getLast? = some (c.detected windows) := by
  rw [attempts_getLast?, probed_last ps4, UsbConfig.detected]
  cases c.probed.find? (probeFound windows) <;> rfl

theorem detected_of_settled {c : Probing} (ps4 : c.outputs.outputPs4 = true)
    {windows : ProbeType → ProbeWindow} {last : ProbeType} {s : Probe}
    (ends : (attempts (probeFound windows) c.outputs.probed).getLast? = some last)
    (settled : Settled c (attempts (probeFound windows) c.outputs.probed) last s) :
    Detected c windows s := by
  have same : c.outputs.detected windows = last :=
    Option.some.inj ((attempts_last ps4 windows).symm.trans ends)
  have order : (attempts (probeFound windows) c.outputs.probed).Sublist [.nx, .ps3, .ps4] :=
    (attempts_initial (probeFound windows) c.outputs.probed).sublist.trans List.filter_sublist
  refine ⟨settled.tried, settled.tried ▸ order, ?_, ?_, ?_, ⟨settled.probeCheck, settled.rebooting⟩,
    settled.bootProbeType, settled.cleared⟩
  · rw [same]
    exact settled.hid
  · rw [settled.tried, same]
    exact ends
  · rw [same]
    exact settled.usbIds

/-- Both ways of looking for the console try the types in their order up to the first one that
has shown its evidence, and stay with it; `boot_probe_type` holds no type in the end. -/
theorem console_detected (board : Board) (outputs : UsbConfig) (ps4 : outputs.outputPs4 = true)
    {bootProbeType : UInt64} (garbage : ∀ type : ProbeType, bootProbeType ≠ type.value)
    {input : Option RawInputState}
    (automatic : outputs.outputCount > 1 → input.bind (manualOverride board outputs) = none)
    (windows : ProbeType → ProbeWindow) (after : List ProbeEvent) (rebootProbe : Bool) :
    Detected ⟨board, outputs, rebootProbe⟩ windows
      (Probing.detect ⟨board, outputs, rebootProbe⟩ bootProbeType input windows after) := by
  have unset : getBootProbe bootProbeType = none := by
    rw [getBootProbe, if_neg (garbage .nx), if_neg (garbage .ps3), if_neg (garbage .ps4)]
  rw [Probing.detect, run_append]
  by_cases many : outputs.outputCount > 1
  · obtain ⟨first, rest, shape⟩ : ∃ first rest, outputs.probed = first :: rest :=
      List.exists_cons_of_ne_nil (by rw [probed_eq ps4]; simp)
    have start : outputs.probeTypeFirst = some first := by rw [probed_first ps4, shape]; rfl
    have member : first ∈ outputs.probed := by rw [shape]; exact List.mem_cons_self
    have trying := boot_first (c := ⟨board, outputs, rebootProbe⟩) many start
      (probed_present member) unset (automatic many)
    have whole : first :: rest <:+ outputs.probed := by rw [shape]
    obtain ⟨last, ends, settled⟩ := settled_of_trying ps4 many windows whole trying
    rw [List.nil_append, ← shape] at settled
    rw [← shape] at ends
    exact detected_of_settled ps4 ends (settled_run settled after)
  · obtain ⟨noPs3, single⟩ := probed_single ps4 many
    have booted : Settled ⟨board, outputs, rebootProbe⟩ [.ps4] .ps4
        (Probing.boot ⟨board, outputs, rebootProbe⟩ bootProbeType [] input) := by
      unfold Probing.boot usbInit
      rw [if_neg many, noPs3, if_neg Bool.false_ne_true, if_pos ps4]
      exact ⟨rfl, rfl, unset, fun _ more => absurd more many, rfl, rfl, rfl⟩
    have tried : attempts (probeFound windows) outputs.probed = [.ps4] := by rw [single]; rfl
    have ends : (attempts (probeFound windows) outputs.probed).getLast? = some .ps4 := by
      rw [tried]
      rfl
    refine detected_of_settled ps4 ends ?_
    rw [tried]
    exact settled_run (settled_run booted _) after

/-- All three outputs, each looked for. -/
def everyOutput : UsbConfig where
  outputSwitch := true
  switchProbe := true
  outputPs3 := true
  ps3Probe := true
  outputPs4 := true
  vendorId := 0x1209
  productId := 0x214c
  led := fun _ => true
  switchProbe_output := fun _ => rfl
  ps3Probe_output := fun _ => rfl

/-- The Switch window sees one halt cleared only, and the PS3 window a controller number. -/
def ps3Windows : ProbeType → ProbeWindow
  | .nx => ⟨[.clearHalt 0x81], [.clearHalt 0x01], none⟩
  | .ps3 => ⟨[.interruptOut [1, 0, 0xff, 0, 0, 0, 0, 0], .interruptOut [1, 0, 1, 0, 0, 0, 0, 0]], [],
      none⟩
  | .ps4 => ⟨[], [], none⟩

theorem ps3_detected :
    (Probing.detect ⟨microdash, everyOutput, true⟩ 7 (some RawInputState.released) ps3Windows
      []).hid = some .ps3 := by
  have garbage : ∀ type : ProbeType, (7 : UInt64) ≠ type.value := by
    intro type
    cases type <;> decide
  have automatic : everyOutput.outputCount > 1 →
      (some RawInputState.released).bind (manualOverride microdash everyOutput) = none :=
    fun _ => by decide
  have detected := console_detected microdash everyOutput rfl garbage automatic ps3Windows [] true
  exact detected.hid.trans (by decide)

end PassingLink.Output
