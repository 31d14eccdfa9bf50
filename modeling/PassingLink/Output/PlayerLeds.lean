import PassingLink.Output.Detection

/-! The four player LEDs from the boot on: they name the type that is being looked for, then the
controller number that a PS3 has assigned, whichever of the detection and the host sets them last. -/
namespace PassingLink.Output
open Input Lib

/-! ### The calls for one LED -/

def callsFor (led : Led) (calls : List (Led × LedCall)) : List LedCall :=
  (calls.filter fun call => call.1 = led).map Prod.snd

section Calls
variable {c : Probing}

theorem ledCalls_led (leds : LedStates) (calls : List (Led × LedCall)) (led : Led) :
    ledCalls c leds calls led =
      run (LedState.step c.board.ticksPerSec) (leds led) (callsFor led calls) := by
  induction calls generalizing leds with
  | nil => rfl
  | cons call calls ih =>
      have first : ledCalls c leds (call :: calls) =
          ledCalls c (leds.step c.board.ticksPerSec call) calls := rfl
      rw [first, ih, LedStates.step]
      unfold callsFor
      rw [List.filter_cons]
      by_cases mine : call.1 = led
      · subst mine
        rw [Function.update_self, if_pos (decide_eq_true rfl)]
        rfl
      · rw [Function.update_of_ne (Ne.symm mine), if_neg (mt of_decide_eq_true mine)]

theorem ledUpdate_on (state : LedState) : state.ledUpdate.on = state.on := by
  have level (state : LedState) (on : Bool) : (state.setLevel on).on = state.on := by
    unfold LedState.setLevel
    split <;> rfl
  have scheduled (state : LedState) : state.ledScheduleUpdate.on = state.on := by
    unfold LedState.ledScheduleUpdate
    split <;> rfl
  have toggled (state : LedState) : state.ledToggle.on = state.on := by
    unfold LedState.ledToggle
    split <;> rfl
  unfold LedState.ledUpdate
  split
  · split
    · exact level state state.on
    · exact (scheduled _).trans (toggled state)
  · exact level state state.on

/-- Only a value that is accepted is recorded. -/
theorem set_on (ticksPerSec : Nat) (state : LedState) (value : Bool) (expected : Option UInt32) :
    (state.step ticksPerSec (.set value expected)).on =
      if state.accepts expected then value else state.on := by
  rw [LedState.step]
  cases accepted : state.accepts expected with
  | false =>
      rw [ledSet_refused accepted]
      rfl
  | true =>
      rw [ledSet_accepted value accepted]
      rfl

theorem kept_on (ticksPerSec : Nat) (state : LedState) {call : LedCall}
    (keeps : call.sets = false) : (state.step ticksPerSec call).on = state.on := by
  cases call with
  | set value expected => cases keeps
  | flash durationMs intervalMs =>
      rw [LedState.step, LedState.ledFlash, LedState.ledScheduleUpdate]
      split <;> rfl
  | expire =>
      rw [LedState.step]
      split
      · exact ledUpdate_on _
      · rfl

/-- The pin of an LED that is there follows its value, except in a flash, which ends. -/
def Steady (state : LedState) : Prop := Shown ⟨state, state.on, 0, 0⟩

theorem Steady.step {ticksPerSec : Nat} {state : LedState} (steady : Steady state) {call : LedCall}
    (ticks : call.Ticks ticksPerSec) : Steady (state.step ticksPerSec call) := by
  have shown : Shown (Lit.step ticksPerSec ⟨state, state.on, 0, 0⟩ call) :=
    shown_step _ call ticks steady
  have led : (Lit.step ticksPerSec ⟨state, state.on, 0, 0⟩ call).led =
      state.step ticksPerSec call := by
    cases call with
    | set | flash => rfl
    | expire =>
        rw [Lit.step]
        dsimp only
        split <;> rfl
  obtain ⟨initialized, ledDevice, -, level, idle, pending, ticks⟩ := shown
  rw [led] at initialized ledDevice level idle pending ticks
  exact ⟨initialized, ledDevice, rfl, level, idle, pending, ticks⟩

theorem Steady.run {ticksPerSec : Nat} {state : LedState} (steady : Steady state)
    {calls : List LedCall} (ticks : ∀ call ∈ calls, call.Ticks ticksPerSec) :
    Steady (run (LedState.step ticksPerSec) state calls) :=
  run_invariant_of_legal (fun _ _ legal before => before.step legal) steady
    (along_of_forall (fun call member _ => ticks call member) state)

end Calls

/-! ### What the player LEDs say -/

def playerBit : Led → UInt8
  | .p1 => 1
  | .p2 => 2
  | .p3 => 4
  | .p4 => 8
  | .front => 0

/-- The detection, and the controller numbers that a PS3 has assigned since its HID runs. -/
structure Lights where
  probe : Probe
  numbers : List UInt8

inductive LightsEvent where
  | probe (e : ProbeEvent)
  /-- The timer of an LED. -/
  | expire (led : Led)

def Lights.boot (c : Probing) (bootProbeType : UInt64) (tried : List ProbeType)
    (input : Option RawInputState) : Lights :=
  ⟨c.boot bootProbeType tried input, []⟩

def Lights.step (c : Probing) (s : Lights) : LightsEvent → Lights
  | .probe (.usb event) =>
      { probe := s.probe.step c (.usb event)
        numbers :=
          if s.probe.hid = some .ps3 then s.numbers ++ event.controllerNumber.toList
          else s.numbers }
  | .probe .check =>
      let probe := s.probe.step c .check
      -- After a check that has run another one is to come only for another HID.
      { probe
        numbers :=
          if s.probe.probeCheck.isSome ∧ probe.probeCheck.isSome then [] else s.numbers }
  | .probe (.reboot input) =>
      { probe := s.probe.step c (.reboot input)
        numbers := if s.probe.rebooting then [] else s.numbers }
  | .expire led => { s with probe.leds := ledCalls c s.probe.leds [(led, .expire)] }

/-- The last number that has been assigned, or else the type that is looked for. -/
def Lights.lit (s : Lights) (led : Led) : Bool :=
  match s.numbers.getLast? with
  | some number => number &&& playerBit led ≠ 0
  | none => (s.probe.probeCheck.isSome || s.probe.rebooting) &&
      (s.probe.currentProbe.map ProbeType.led = some led)

/-- How often the packets with these numbers set an LED. -/
def packetSets (led : Led) (numbers : List UInt8) : Nat :=
  numbers.length + numbers.countP fun number => number &&& playerBit led ≠ 0

/-- While a type is looked for, the counter of its LED is what `led_on` has returned for it, but
for what the packets have done to it. -/
structure Sought (s : Lights) (type : ProbeType) : Prop where
  currentProbe : s.probe.currentProbe = some type
  counter : (s.probe.leds type.led).counter =
    s.probe.probeLedCounter + UInt32.ofNat (packetSets type.led s.numbers)
  waiting : s.probe.rebooting = false

structure Lights.Inv (c : Probing) (s : Lights) : Prop where
  steady : ∀ led, c.outputs.led led = true → Steady (s.probe.leds led)
  on : ∀ led, led ≠ .front → (s.probe.leds led).on = s.lit led
  sought : s.probe.probeCheck.isSome = true → ∃ type, Sought s type

/-! ### A HID starts -/

section Start
variable {c : Probing}

def allOff : List (Led × LedCall) :=
  [Led.p1, .p2, .p3, .p4].map fun led => (led, .set false none)

theorem callsFor_allOff {led : Led} (player : led ≠ .front) :
    callsFor led allOff = [.set false none] := by
  cases led with
  | front => exact absurd rfl player
  | p1 | p2 | p3 | p4 => rfl

theorem callsFor_single (led led' : Led) (call : LedCall) :
    callsFor led [(led', call)] = if led' = led then [call] else [] := by
  unfold callsFor
  rw [List.filter_cons]
  by_cases same : led' = led
  · rw [if_pos same, if_pos (decide_eq_true same)]
    rfl
  · rw [if_neg same, if_neg (mt of_decide_eq_true same)]
    rfl

theorem steady_ledCalls {leds : LedStates} (steady : ∀ led, c.outputs.led led = true →
    Steady (leds led)) {calls : List (Led × LedCall)}
    (ticks : ∀ call ∈ calls, call.2.Ticks c.board.ticksPerSec) :
    ∀ led, c.outputs.led led = true → Steady (ledCalls c leds calls led) := by
  intro led present
  rw [ledCalls_led]
  refine (steady led present).run ?_
  intro call member
  obtain ⟨⟨led', call'⟩, inside, rfl⟩ := List.mem_map.mp member
  exact ticks _ (List.mem_of_mem_filter inside)

theorem sets_tick {calls : List (Led × LedCall)} (sets : ∀ call ∈ calls, call.2.sets = true) :
    ∀ call ∈ calls, call.2.Ticks c.board.ticksPerSec := by
  intro call member
  have set := sets call member
  obtain ⟨led, call⟩ := call
  cases call with
  | set value expected => trivial
  | flash | expire => cases set

/-- What `usb_probe_start` makes of the LEDs, whatever they were. -/
structure Started (c : Probing) (type : ProbeType) (s s' : Probe) : Prop where
  steady : (∀ led, c.outputs.led led = true → Steady (s.leds led)) →
    ∀ led, c.outputs.led led = true → Steady (s'.leds led)
  on : ∀ led, led ≠ .front → (s'.leds led).on = decide (type.led = led)
  counter : (s'.leds type.led).counter = s'.probeLedCounter
  currentProbe : s'.currentProbe = s.currentProbe
  probeCheck : s'.probeCheck.isSome = true
  rebooting : s'.rebooting = s.rebooting

theorem startHid_started (s : Probe) (type : ProbeType) :
    Started c type s (s.startHid c type) := by
  have leds : (s.startHid c type).leds =
      ledCalls c (ledCalls c s.leds allOff) [(type.led, .set true none)] := by
    unfold Probe.startHid
    cases c.outputs.probeTypeHid type with
    | none => rfl
    | some hid => cases hid <;> rfl
  have probeLedCounter : (s.startHid c type).probeLedCounter =
      ((ledCalls c s.leds allOff type.led).ledSet true none).1 := by
    unfold Probe.startHid
    cases c.outputs.probeTypeHid type with
    | none => rfl
    | some hid => cases hid <;> rfl
  refine ⟨?_, ?_, ?_, ?_, ?_, ?_⟩
  · intro steady
    rw [leds]
    refine steady_ledCalls (steady_ledCalls steady (sets_tick ?_)) (sets_tick ?_)
    · exact fun call member => by
        obtain ⟨led, -, rfl⟩ := List.mem_map.mp member
        rfl
    · exact fun call member => by
        rw [List.mem_singleton.mp member]
        rfl
  · intro led player
    rw [leds, ledCalls_led, callsFor_single, ledCalls_led, callsFor_allOff player, run_cons, run_nil]
    by_cases same : type.led = led
    · rw [if_pos same, decide_eq_true same, run_cons, run_nil, set_on]
      rfl
    · rw [if_neg same, decide_eq_false same, run_nil, set_on]
      rfl
  · rw [leds, probeLedCounter, ledCalls_led, callsFor_single, if_pos rfl, run_cons, run_nil,
      step_counter, ledSet_returned]
    rfl
  all_goals
    unfold Probe.startHid
    cases c.outputs.probeTypeHid type with
    | none => rfl
    | some hid => cases hid <;> rfl

end Start

/-! ### A packet assigns a number -/

section Packet
variable {c : Probing}

def numberCalls (number : UInt8) : List (Led × LedCall) :=
  [((1 : UInt8), Led.p1), (2, .p2), (4, .p3), (8, .p4)].filterMap fun (bit, led) =>
    if number &&& bit ≠ 0 then some (led, LedCall.set true none) else none

theorem callsFor_append (led : Led) (first second : List (Led × LedCall)) :
    callsFor led (first ++ second) = callsFor led first ++ callsFor led second := by
  rw [callsFor, List.filter_append, List.map_append]
  rfl

theorem callsFor_number (number : UInt8) {led : Led} (player : led ≠ .front) :
    callsFor led (numberCalls number) =
      if number &&& playerBit led ≠ 0 then [.set true none] else [] := by
  by_cases one : number &&& 1 = 0 <;> by_cases two : number &&& 2 = 0 <;>
    by_cases three : number &&& 4 = 0 <;> by_cases four : number &&& 8 = 0 <;>
    cases led <;> simp [callsFor, numberCalls, playerBit, one, two, three, four] at player ⊢

/-- What a packet with a number makes of the LEDs. -/
structure Assigned (c : Probing) (number : UInt8) (leds leds' : LedStates) : Prop where
  steady : (∀ led, c.outputs.led led = true → Steady (leds led)) →
    ∀ led, c.outputs.led led = true → Steady (leds' led)
  on : ∀ led, led ≠ .front → (leds' led).on = decide (number &&& playerBit led ≠ 0)
  counter : ∀ led, led ≠ .front →
    (leds' led).counter = (leds led).counter + UInt32.ofNat (packetSets led [number])

theorem interruptOut_assigned (hid : PS3Hid) (leds : LedStates) {buf : List UInt8}
    (eight : buf.length = 8) :
    Assigned c (buf.getD 2 0) leds (hid.interruptOut c.board.ticksPerSec leds buf).2 := by
  have result : (hid.interruptOut c.board.ticksPerSec leds buf).2 =
      ledCalls c leds (allOff ++ numberCalls (buf.getD 2 0)) := by
    unfold PS3Hid.interruptOut
    rw [if_pos eight]
    rfl
  rw [result]
  refine ⟨?_, ?_, ?_⟩
  · intro steady
    refine steady_ledCalls steady (sets_tick ?_)
    intro call member
    rcases List.mem_append.mp member with off | on
    · obtain ⟨led, -, rfl⟩ := List.mem_map.mp off
      rfl
    · obtain ⟨⟨bit, led⟩, -, is⟩ := List.mem_filterMap.mp on
      dsimp only at is
      split at is
      · cases is
        rfl
      · cases is
  · intro led player
    rw [ledCalls_led, callsFor_append, callsFor_allOff player, callsFor_number _ player]
    split
    · rename_i lights
      rw [List.singleton_append, run_cons, run_cons, run_nil, set_on, decide_eq_true lights]
      rfl
    · rename_i dark
      rw [List.append_nil, run_cons, run_nil, set_on, decide_eq_false dark]
      rfl
  · intro led player
    rw [ledCalls_led, callsFor_append, callsFor_allOff player, callsFor_number _ player,
      packetSets, List.countP_singleton]
    split
    · rename_i lights
      rw [List.singleton_append, run_cons, run_cons, run_nil, step_counter, step_counter,
        if_pos (decide_eq_true lights)]
      exact UInt32.add_assoc _ 1 1
    · rename_i dark
      rw [List.append_nil, run_cons, run_nil, step_counter, if_neg (mt of_decide_eq_true dark)]
      rfl

end Packet

/-! ### A type is selected -/

section Selection
variable {c : Probing}

theorem flash_ticks (rate : 0 < c.board.ticksPerSec) (word : c.board.ticksPerSec < 2 ^ 32) :
    (LedCall.flash 1000 300).Ticks c.board.ticksPerSec := by
  have low : kMsToTicksCeil64 c.board.ticksPerSec 300 ≤ c.board.ticksPerSec :=
    kMsToTicksCeil64_le.mpr (Nat.mul_le_mul_right _ (by decide))
  have positive : ¬ kMsToTicksCeil64 c.board.ticksPerSec 300 ≤ 0 := by
    rw [kMsToTicksCeil64_le]
    omega
  have ticks : (kMsToTicksCeil32 c.board.ticksPerSec 300).toNat =
      kMsToTicksCeil64 c.board.ticksPerSec 300 :=
    UInt32.toNat_ofNat_of_lt' (Nat.lt_of_le_of_lt low word)
  change 0 < kMsToTicksCeil32 c.board.ticksPerSec 300
  rw [UInt32.lt_iff_toNat_lt, ticks]
  exact Nat.not_le.mp positive

def flashes : List (Led × LedCall) :=
  [Led.p1, .p2, .p3, .p4].map fun led => (led, .flash 1000 300)

theorem callsFor_flashes {led : Led} (player : led ≠ .front) :
    callsFor led flashes = [.flash 1000 300] := by
  cases led with
  | front => exact absurd rfl player
  | p1 | p2 | p3 | p4 => rfl

/-- The LED of the type is switched off only under its counter. -/
structure Chosen (c : Probing) (type : ProbeType) (s s' : Probe) : Prop where
  steady : (∀ led, c.outputs.led led = true → Steady (s.leds led)) →
    ∀ led, c.outputs.led led = true → Steady (s'.leds led)
  on : ∀ led, led ≠ .front → (s'.leds led).on =
    if type.led = led ∧ s.probeLedCounter = (s.leds led).counter then false else (s.leds led).on
  currentProbe : s'.currentProbe = s.currentProbe
  probeCheck : s'.probeCheck = s.probeCheck
  rebooting : s'.rebooting = s.rebooting

theorem usbProbeSelected_chosen (rate : 0 < c.board.ticksPerSec)
    (word : c.board.ticksPerSec < 2 ^ 32) (s : Probe) (type : ProbeType) :
    Chosen c type s (s.usbProbeSelected c type) := by
  have leds : (s.usbProbeSelected c type).leds = ledCalls c (ledCalls c s.leds
      [(type.led, .set false (some s.probeLedCounter))]) flashes := by
    unfold Probe.usbProbeSelected Probe.displayProbe
    dsimp only
    split <;> split <;> rfl
  refine ⟨?_, ?_, ?_, ?_, ?_⟩
  · intro steady
    rw [leds]
    refine steady_ledCalls (steady_ledCalls steady (sets_tick ?_)) ?_
    · intro call member
      rw [List.mem_singleton.mp member]
      rfl
    · intro call member
      obtain ⟨led, -, rfl⟩ := List.mem_map.mp member
      exact flash_ticks rate word
  · intro led player
    rw [leds, ledCalls_led, callsFor_flashes player, run_cons, run_nil, kept_on _ _ rfl,
      ledCalls_led, callsFor_single]
    by_cases mine : type.led = led
    · have accepts : (s.leds led).accepts (some s.probeLedCounter) =
          decide (s.probeLedCounter = (s.leds led).counter) := rfl
      rw [if_pos mine, run_cons, run_nil, set_on, accepts]
      by_cases current : s.probeLedCounter = (s.leds led).counter
      · rw [if_pos (decide_eq_true current), if_pos ⟨mine, current⟩]
      · rw [if_neg (mt of_decide_eq_true current), if_neg fun both => current both.2]
    · rw [if_neg mine, if_neg fun both => mine both.1, run_nil]
  all_goals
    unfold Probe.usbProbeSelected Probe.displayProbe
    dsimp only
    split <;> split <;> rfl

end Selection

/-! ### Steps -/

section Steps
variable {c : Probing} {s : Lights}

/-- Fewer packets than the counter has values do not bring it back. -/
theorem counter_moved {led : Led} {numbers : List UInt8} (numbered : numbers ≠ [])
    (few : numbers.length < 2 ^ 31) (counter : UInt32) :
    counter ≠ counter + UInt32.ofNat (packetSets led numbers) := by
  intro same
  have most : numbers.countP (fun number => number &&& playerBit led ≠ 0) ≤ numbers.length :=
    List.countP_le_length
  have least := List.length_pos_of_ne_nil numbered
  have size : UInt32.size = 2 ^ 32 := rfl
  have fits : packetSets led numbers < UInt32.size := by
    unfold packetSets
    exact Nat.lt_of_le_of_lt (Nat.add_le_add_left most _) (by omega)
  have sum := congrArg UInt32.toNat same
  rw [UInt32.toNat_add, UInt32.toNat_ofNat_of_lt' fits] at sum
  have range := counter.toNat_lt
  unfold packetSets at sum fits
  omega

theorem lit_numbered {number : UInt8} (last : s.numbers.getLast? = some number) (led : Led) :
    s.lit led = decide (number &&& playerBit led ≠ 0) := by
  rw [Lights.lit, last]

theorem lit_unnumbered (unnumbered : s.numbers = []) (led : Led) :
    s.lit led = ((s.probe.probeCheck.isSome || s.probe.rebooting) &&
      decide (s.probe.currentProbe.map ProbeType.led = some led)) := by
  rw [Lights.lit, unnumbered]
  rfl

/-- The state right after a HID has been started, whatever was before. -/
theorem inv_started {probe probe' : Probe} {type : ProbeType} {numbers : List UInt8}
    (started : Started c type probe probe')
    (steady : ∀ led, c.outputs.led led = true → Steady (probe.leds led))
    (current : probe.currentProbe = some type) (waiting : probe.rebooting = false)
    (unnumbered : numbers = []) : Lights.Inv c ⟨probe', numbers⟩ := by
  subst unnumbered
  have current' : probe'.currentProbe = some type := started.currentProbe.trans current
  refine ⟨started.steady steady, ?_, ?_⟩
  · intro led player
    rw [lit_unnumbered rfl]
    dsimp only
    rw [started.on led player, started.probeCheck, current', Bool.true_or, Bool.true_and]
    congr 1
    rw [Option.map_some, Option.some_inj]
  · intro _
    refine ⟨type, current', ?_, started.rebooting.trans waiting⟩
    rw [started.counter]
    exact (UInt32.add_zero _).symm

theorem player_of_type (type : ProbeType) : type.led ≠ .front := by
  cases type <;> decide

theorem Lights.Inv.expire (inv : s.Inv c) (led : Led) : (s.step c (.expire led)).Inv c := by
  obtain ⟨steady, on, sought⟩ := inv
  have single (led' : Led) : ledCalls c s.probe.leds [(led, .expire)] led' =
      if led = led' then (s.probe.leds led').step c.board.ticksPerSec .expire
      else s.probe.leds led' := by
    rw [ledCalls_led, callsFor_single]
    split <;> rfl
  refine ⟨steady_ledCalls steady ?_, ?_, ?_⟩
  · intro call member
    rw [List.mem_singleton.mp member]
    trivial
  · intro led' player
    refine Eq.trans ?_ (on led' player)
    dsimp only [Lights.step]
    rw [single]
    split
    · exact kept_on _ _ rfl
    · rfl
  · intro searching
    obtain ⟨type, current, counter, waiting⟩ := sought searching
    refine ⟨type, current, Eq.trans ?_ counter, waiting⟩
    dsimp only [Lights.step]
    rw [single]
    split
    · rw [step_counter]
      rfl
    · rfl

theorem usb_leds (probe : Probe) (event : UsbEvent) :
    (probe.hid = some .ps3 ∧ ∃ number, event.controllerNumber = some number ∧
      Assigned c number probe.leds (probe.usb c event).leds) ∨
    ((probe.hid = some .ps3 → event.controllerNumber = none) ∧
      (probe.usb c event).leds = probe.leds) := by
  unfold Probe.usb
  split
  · rename_i nx
    exact .inr ⟨fun ps3 => absurd (nx.symm.trans ps3) (by decide), rfl⟩
  · rename_i buf ps3
    by_cases eight : buf.length = 8
    · exact .inl ⟨ps3, buf.getD 2 0, if_pos eight, interruptOut_assigned _ _ eight⟩
    · refine .inr ⟨fun _ => if_neg eight, ?_⟩
      dsimp only [PS3Hid.interruptOut]
      rw [if_neg eight]
  · rename_i event _ _ _ other
    refine .inr ⟨?_, rfl⟩
    intro ps3
    cases event with
    | clearHalt endpoint => rfl
    | interruptOut buf => exact absurd rfl (other buf ps3)

theorem packetSets_concat (led : Led) (numbers : List UInt8) (number : UInt8) :
    packetSets led (numbers ++ [number]) = packetSets led numbers + packetSets led [number] := by
  unfold packetSets
  rw [List.countP_append, List.length_append]
  omega

theorem Lights.Inv.usb (inv : s.Inv c) (event : UsbEvent) :
    (s.step c (.probe (.usb event))).Inv c := by
  obtain ⟨steady, on, sought⟩ := inv
  have keeps := usb_keeps (c := c) s.probe event
  have counter : (s.probe.usb c event).probeLedCounter = s.probe.probeLedCounter := by
    unfold Probe.usb
    split <;> rfl
  unfold Lights.step
  dsimp only [Probe.step]
  rcases usb_leds (c := c) s.probe event with ⟨running, number, is, assigned⟩ | ⟨silent, leds⟩
  · rw [if_pos running, is]
    have last : (s.numbers ++ [number]).getLast? = some number := List.getLast?_concat
    refine ⟨assigned.steady steady, ?_, ?_⟩
    · intro led player
      rw [lit_numbered last]
      exact assigned.on led player
    · intro searching
      obtain ⟨type, current, before, waiting⟩ := sought (keeps.probeCheck ▸ searching)
      refine ⟨type, keeps.currentProbe.trans current, ?_, keeps.rebooting.trans waiting⟩
      dsimp only [Option.toList]
      rw [assigned.counter _ (player_of_type type), before, counter, packetSets_concat,
        UInt32.ofNat_add, UInt32.add_assoc]
  · have numbers : (if s.probe.hid = some .ps3 then s.numbers ++ event.controllerNumber.toList
        else s.numbers) = s.numbers := by
      split
      · rename_i running
        rw [silent running]
        exact List.append_nil _
      · rfl
    rw [numbers]
    refine ⟨leds ▸ steady, ?_, ?_⟩
    · intro led player
      have same : Lights.lit ⟨s.probe.usb c event, s.numbers⟩ led = s.lit led := by
        unfold Lights.lit
        rw [keeps.probeCheck, keeps.rebooting, keeps.currentProbe]
      rw [same, ← on led player]
      exact congrArg (fun leds : LedStates => (leds led).on) leds
    · intro searching
      obtain ⟨type, current, before, waiting⟩ := sought (keeps.probeCheck ▸ searching)
      refine ⟨type, keeps.currentProbe.trans current, ?_, keeps.rebooting.trans waiting⟩
      dsimp only
      rw [leds, counter]
      exact before

/-! ### The check and the reboot -/

inductive CheckCase (c : Probing) (type : ProbeType) (probe : Probe) : Probe → Prop where
  | selected : CheckCase c type probe (probe.usbProbeSelected c type)
  | reboots (next : ProbeType) :
      CheckCase c type probe
        { probe with bootProbeType := setBootProbe (some next), rebooting := true }
  | starts (next : ProbeType) :
      CheckCase c type probe
        ({ probe.usbHidUninit c with currentProbe := some next }.startHid c next)

theorem check_cases {probe : Probe} {type : ProbeType} (current : probe.currentProbe = some type) :
    CheckCase c type probe (probe.usbProbeCheck c) := by
  unfold Probe.usbProbeCheck
  split
  · rename_i absent
    exact absurd (current.symm.trans absent) (Option.some_ne_none type)
  · rename_i type' same
    obtain rfl : type = type' := Option.some.inj (current.symm.trans same)
    split
    · exact .selected
    · split
      · exact .selected
      · rename_i next _
        split
        · exact .reboots next
        · exact .starts next

theorem usbHidUninit_leds (probe : Probe) :
    (probe.usbHidUninit c).leds = probe.leds ∧
      (probe.usbHidUninit c).rebooting = probe.rebooting := by
  unfold Probe.usbHidUninit Probe.hidDeinit
  split
  · split <;> exact ⟨rfl, rfl⟩
  · exact ⟨rfl, rfl⟩

/-- The counter that the search holds is good exactly while no packet has come. -/
theorem Lights.Inv.selected (inv : s.Inv c) (rate : 0 < c.board.ticksPerSec)
    (word : c.board.ticksPerSec < 2 ^ 32) {type : ProbeType} (sought : Sought s type)
    (searching : s.probe.probeCheck.isSome = true) (few : s.numbers.length < 2 ^ 31) :
    Lights.Inv c ⟨{ s.probe with probeCheck := none }.usbProbeSelected c type, s.numbers⟩ := by
  have chosen := usbProbeSelected_chosen rate word { s.probe with probeCheck := none } type
  generalize Probe.usbProbeSelected c _ type = probe at chosen
  have unchecked : probe.probeCheck = none := chosen.probeCheck
  have waiting : probe.rebooting = false := chosen.rebooting.trans sought.waiting
  refine ⟨chosen.steady inv.steady, ?_, ?_⟩
  · intro led player
    dsimp only
    rw [chosen.on led player]
    dsimp only
    rw [inv.on led player]
    cases last : s.numbers.getLast? with
    | none =>
        have unnumbered := List.getLast?_eq_none_iff.mp last
        have current : (s.probe.leds type.led).counter = s.probe.probeLedCounter := by
          rw [sought.counter, unnumbered]
          exact UInt32.add_zero _
        have dark : Lights.lit ⟨probe, s.numbers⟩ led = false := by
          rw [lit_unnumbered (s := ⟨probe, s.numbers⟩) unnumbered]
          dsimp only
          rw [unchecked, waiting]
          rfl
        rw [dark, lit_unnumbered unnumbered, searching, sought.currentProbe]
        by_cases mine : type.led = led
        · subst mine
          rw [if_pos ⟨rfl, current.symm⟩]
        · have other : ¬ (some type).map ProbeType.led = some led := mt Option.some.inj mine
          rw [if_neg fun both => mine both.1, decide_eq_false other]
          rfl
    | some number =>
        have numbered : s.numbers ≠ [] := List.ne_nil_of_mem (List.mem_of_getLast? last)
        have moved : ¬ (type.led = led ∧ s.probe.probeLedCounter = (s.probe.leds led).counter) := by
          rintro ⟨rfl, same⟩
          exact counter_moved numbered few _ (same.trans sought.counter)
        have last' : (Lights.mk probe s.numbers).numbers.getLast? = Option.some number := last
        rw [if_neg moved, lit_numbered last, lit_numbered last']
  · intro still
    rw [unchecked] at still
    cases still

theorem Lights.Inv.reboots (inv : s.Inv c) (searching : s.probe.probeCheck.isSome = true)
    (bootProbeType : UInt64) :
    Lights.Inv c
      ⟨{ s.probe with probeCheck := none, bootProbeType, rebooting := true }, s.numbers⟩ := by
  refine ⟨inv.steady, ?_, fun still => by cases still⟩
  intro led player
  refine (inv.on led player).trans ?_
  unfold Lights.lit
  dsimp only
  rw [searching, Bool.true_or, Bool.or_true]

theorem Lights.Inv.check (inv : s.Inv c) (rate : 0 < c.board.ticksPerSec)
    (word : c.board.ticksPerSec < 2 ^ 32)
    (few : s.probe.probeCheck.isSome = true → s.numbers.length < 2 ^ 31) :
    (s.step c (.probe .check)).Inv c := by
  unfold Lights.step
  dsimp only [Probe.step]
  by_cases searching : s.probe.probeCheck.isSome = true
  · obtain ⟨type, sought⟩ := inv.sought searching
    have checked : CheckCase c type { s.probe with probeCheck := none }
        ({ s.probe with probeCheck := none }.usbProbeCheck c) := check_cases sought.currentProbe
    rw [if_pos searching]
    generalize Probe.usbProbeCheck c _ = probe at checked
    cases checked with
    | selected =>
        have selected := inv.selected rate word sought searching (few searching)
        have ended := (usbProbeSelected_chosen rate word { s.probe with probeCheck := none }
          type).probeCheck
        rw [if_neg]
        · exact selected
        · rw [ended]
          exact fun both => Bool.false_ne_true both.2
    | reboots next =>
        rw [if_neg fun both => Bool.false_ne_true both.2]
        exact inv.reboots searching _
    | starts next =>
        have started := startHid_started (c := c)
          { ({ s.probe with probeCheck := none } : Probe).usbHidUninit c with
            currentProbe := some next } next
        obtain ⟨leds, waiting⟩ := usbHidUninit_leds (c := c) { s.probe with probeCheck := none }
        refine inv_started started ?_ rfl (waiting.trans sought.waiting)
          (if_pos ⟨searching, started.probeCheck⟩)
        dsimp only
        rw [leds]
        exact inv.steady
  · rw [if_neg searching, if_neg fun both => searching both.1]
    exact inv

/-- A boot before anything is looked for. -/
structure Booted (c : Probing) (probe : Probe) : Prop where
  leds : probe.leds = fun led => LedState.init (c.outputs.led led)
  probeCheck : probe.probeCheck = none
  rebooting : probe.rebooting = false

theorem Booted.displayProbe {probe : Probe} (booted : Booted c probe) (probing : Bool)
    (type : ProbeType) : Booted c (probe.displayProbe c probing type) := by
  obtain ⟨leds, probeCheck, rebooting⟩ := booted
  unfold Probe.displayProbe
  split <;> exact ⟨leds, probeCheck, rebooting⟩

theorem Booted.usbHidInit {probe : Probe} (booted : Booted c probe) (hid : Option ProbeType) :
    Booted c (probe.usbHidInit hid) := by
  obtain ⟨leds, probeCheck, rebooting⟩ := booted
  cases hid with
  | none => exact ⟨leds, probeCheck, rebooting⟩
  | some type => cases type <;> exact ⟨leds, probeCheck, rebooting⟩

theorem Booted.steady {probe : Probe} (booted : Booted c probe) :
    ∀ led, c.outputs.led led = true → Steady (probe.leds led) := by
  intro led present
  rw [booted.leds]
  dsimp only
  rw [present]
  exact shown_init

theorem Booted.inv {probe : Probe} (booted : Booted c probe) : Lights.Inv c ⟨probe, []⟩ := by
  refine ⟨booted.steady, ?_, ?_⟩
  · intro led player
    rw [lit_unnumbered rfl]
    dsimp only
    rw [booted.leds, booted.probeCheck, booted.rebooting]
    rfl
  · intro searching
    rw [booted.probeCheck] at searching
    cases searching

theorem Booted.started {probe : Probe} (booted : Booted c probe) {type : ProbeType}
    (current : probe.currentProbe = some type) :
    Lights.Inv c ⟨probe.startHid c type, []⟩ :=
  inv_started (startHid_started probe type) booted.steady current booted.rebooting rfl

theorem boot_inv (bootProbeType : UInt64) (tried : List ProbeType) (input : Option RawInputState) :
    (Lights.boot c bootProbeType tried input).Inv c := by
  have booted : Booted c (c.reset bootProbeType tried) := ⟨rfl, rfl, rfl⟩
  unfold Lights.boot Probing.boot
  generalize c.reset bootProbeType tried = probe at booted
  unfold usbInit
  split
  · unfold usbProbe
    dsimp only
    split
    · exact ((booted.displayProbe false _).usbHidInit _).inv
    · generalize (if c.rebootProbe then getBootProbe probe.bootProbeType else none) = type
      have booted' : Booted c { probe with currentProbe := type } :=
        ⟨booted.leds, booted.probeCheck, booted.rebooting⟩
      unfold Probe.usbProbeStart
      split
      · rename_i current
        exact booted'.started current
      · rename_i first _ _
        have found : Booted c { probe with currentProbe := some first } :=
          ⟨booted.leds, booted.probeCheck, booted.rebooting⟩
        exact (found.displayProbe true first).started
          (displayProbe_keeps _ true first).1.currentProbe
      · exact booted'.inv
  · split
    · exact (booted.usbHidInit _).inv
    · split
      · exact (booted.usbHidInit _).inv
      · split
        · exact (booted.usbHidInit _).inv
        · exact booted.inv

theorem Lights.Inv.reboot (inv : s.Inv c) (input : Option RawInputState) :
    (s.step c (.probe (.reboot input))).Inv c := by
  unfold Lights.step
  dsimp only [Probe.step]
  by_cases asked : s.probe.rebooting = true
  · rw [if_pos asked, if_pos asked]
    exact boot_inv _ _ input
  · rw [if_neg asked, if_neg asked]
    exact inv

/-- The check comes before packets can have brought the counter of an LED around. -/
def Lights.Timely (s : Lights) (e : LightsEvent) : Prop :=
  e = .probe .check → s.probe.probeCheck.isSome = true → s.numbers.length < 2 ^ 31

theorem Lights.Inv.step (rate : 0 < c.board.ticksPerSec) (word : c.board.ticksPerSec < 2 ^ 32)
    (s : Lights) (e : LightsEvent) (timely : s.Timely e) (inv : s.Inv c) : (s.step c e).Inv c := by
  cases e with
  | probe e =>
      cases e with
      | usb event => exact inv.usb event
      | check => exact inv.check rate word (timely rfl)
      | reboot input => exact inv.reboot input
  | expire led => exact inv.expire led

end Steps

/-! ### Runs -/

/-- Every expiry of the timer takes an interval off what is left of the flash. -/
theorem flash_ends (ticksPerSec : Nat) {state : LedState} (steady : Steady state) :
    ∃ n, (run (LedState.step ticksPerSec) state (List.replicate n .expire)).flashing = false := by
  induction left : state.durationTicks.toNat using Nat.strongRecOn generalizing state with
  | ind duration ih =>
      cases flashing : state.flashing with
      | false => exact ⟨0, flashing⟩
      | true =>
          have expired : state.step ticksPerSec .expire = state.taken.ledUpdate :=
            if_pos (steady.pending flashing)
          have later : Steady (state.step ticksPerSec .expire) := steady.step trivial
          rw [expired] at later
          by_cases more : state.intervalTicks ≤ state.durationTicks
          · have toggled : state.taken.ledUpdate = _ :=
              ledUpdate_toggle steady.initialized steady.ledDevice flashing more
            have positive : 0 < state.intervalTicks.toNat :=
              UInt32.lt_iff_toNat_lt.mp (steady.ticks flashing)
            have fewer : state.taken.ledUpdate.durationTicks.toNat < duration := by
              rw [toggled, ← left]
              dsimp only [LedState.taken]
              rw [UInt32.toNat_sub_of_le _ _ more]
              have enough := UInt32.le_iff_toNat_le.mp more
              omega
            obtain ⟨n, still⟩ := ih _ fewer later rfl
            refine ⟨n + 1, ?_⟩
            rw [List.replicate_succ, run_cons, expired]
            exact still
          · have stopped : state.taken.ledUpdate = _ :=
              ledUpdate_stop steady.ledDevice flashing (UInt32.not_le.mp more)
            refine ⟨1, ?_⟩
            rw [List.replicate_one, run_cons, run_nil, expired, stopped]

theorem run_expiries (c : Probing) (s : Lights) (led : Led) (n : Nat) :
    let s' := run (Lights.step c) s (List.replicate n (.expire led))
    s'.probe.leds led =
        run (LedState.step c.board.ticksPerSec) (s.probe.leds led) (List.replicate n .expire) ∧
      s'.lit led = s.lit led := by
  induction n generalizing s with
  | zero => exact ⟨rfl, rfl⟩
  | succ n ih =>
      intro s'
      have first : (s.step c (.expire led)).probe.leds led =
          (s.probe.leds led).step c.board.ticksPerSec .expire := Function.update_self ..
      obtain ⟨leds, lit⟩ := ih (s.step c (.expire led))
      rw [first] at leds
      exact ⟨leds, lit⟩

/-- However the detection, the packets of the host and the timers are interleaved, on either
variant and through every reboot: a player LED shows the last number that a PS3 has assigned to
the running HID, or else whether its type is looked for. A flash hides it, and ends. -/
theorem player_leds (c : Probing) (rate : 0 < c.board.ticksPerSec)
    (word : c.board.ticksPerSec < 2 ^ 32) (bootProbeType : UInt64) (tried : List ProbeType)
    (input : Option RawInputState) (es : List LightsEvent)
    (timely : Along (Lights.step c) Lights.Timely (Lights.boot c bootProbeType tried input) es)
    {led : Led} (player : led ≠ .front) (present : c.outputs.led led = true) :
    let s := run (Lights.step c) (Lights.boot c bootProbeType tried input) es
    ((s.probe.leds led).flashing = false → (s.probe.leds led).level = s.lit led) ∧
      ∃ n, ((run (Lights.step c) s (List.replicate n (.expire led))).probe.leds led).level =
        s.lit led := by
  intro s
  have preserved := Lights.Inv.step (c := c) rate word
  have inv : s.Inv c := run_invariant_of_legal preserved (boot_inv bootProbeType tried input) timely
  refine ⟨fun still => ((inv.steady led present).level still).trans (inv.on led player), ?_⟩
  obtain ⟨n, still⟩ := flash_ends c.board.ticksPerSec (inv.steady led present)
  obtain ⟨leds, lit⟩ := run_expiries c s led n
  have expires : ∀ e ∈ List.replicate n (LightsEvent.expire led), ∀ s : Lights, s.Timely e := by
    intro e member s check
    rw [(List.mem_replicate.mp member).2] at check
    cases check
  have later := run_invariant_of_legal preserved inv (along_of_forall expires s)
  refine ⟨n, ?_⟩
  rw [← lit, ← later.on led player]
  refine (later.steady led present).level ?_
  rw [leds]
  exact still

/-- A PS3 assigns a number to the second HID that is tried; the end of the search leaves it. -/
theorem number_survives :
    let boot := Lights.boot ⟨microdash, everyOutput, true⟩ 7 [] (some RawInputState.released)
    let es : List LightsEvent := [.probe (.usb (.clearHalt 0x81)), .probe .check,
      .probe (.reboot (some RawInputState.released)),
      .probe (.usb (.interruptOut [1, 0, 3, 0, 0, 0, 0, 0])), .probe .check, .expire .p2]
    let s := run (Lights.step ⟨microdash, everyOutput, true⟩) boot es
    s.probe.hid = some .ps3 ∧ s.probe.probeCheck = none ∧ s.lit .p2 = true ∧
      ∃ n, ((run (Lights.step ⟨microdash, everyOutput, true⟩) s
        (List.replicate n (.expire .p2))).probe.leds .p2).level = true := by
  intro boot es s
  have timely : Along (Lights.step ⟨microdash, everyOutput, true⟩) Lights.Timely boot es := by
    refine ⟨?_, ?_, ?_, ?_, ?_, ?_, trivial⟩ <;> exact fun _ _ => by decide
  have player : Led.p2 ≠ .front := by decide
  obtain ⟨-, n, shows⟩ := player_leds ⟨microdash, everyOutput, true⟩ (by decide) (by decide) 7 []
    (some RawInputState.released) es timely player rfl
  exact ⟨rfl, rfl, rfl, n, shows⟩

end PassingLink.Output
