import PassingLink.Input.Parse
import PassingLink.Lib.Slots

/-! The pins of `input.cpp`: the ports are found once, at initialisation, and a poll reads every
port once for all the pins that are on it. -/
namespace PassingLink.Input
open Lib

/-- What the devicetree says of an input: PL_GPIO_LABEL, PL_GPIO_PIN, and GPIO_ACTIVE_LOW of
PL_GPIO_FLAGS. -/
structure GpioPin where
  label : String
  pin : Fin 32
  activeLow : Bool

/-- The level of a pin, given the value of its port. -/
def GpioPin.level (pin : GpioPin) (portValue : UInt32) : Bool :=
  let value : Bool := portValue &&& (1 <<< UInt32.ofNat pin.pin) ≠ 0
  if pin.activeLow then !value else value

/-- What the GPIO driver says while the inputs are initialised: `device_get_binding` of a label,
and `gpio_pin_configure` of the pin of an input. -/
structure GpioDriver (δ : Type*) where
  deviceGetBinding : String → Option δ
  gpioPinConfigure : Gpio → Int

/-- A PANIC, or a read of what has never been written. -/
inductive GpioFault where
  | panic (text : String)
  | wild
  deriving DecidableEq

def gpioPortCount : Nat := 4

/-- `gpio_devices` with `gpio_device_count`, and `gpio_indices`. -/
structure GpioState (δ : Type*) where
  devices : Slots δ
  indices : Gpio → Nat

namespace GpioState
variable {δ : Type*} [DecidableEq δ]

def boot : GpioState δ := ⟨Slots.empty gpioPortCount, fun _ => 0⟩

def gpioDeviceAdd (s : GpioState δ) (device : δ) : Except GpioFault (Nat × GpioState δ) :=
  match s.devices.add device with
  | some (i, devices) => .ok (i, { s with devices })
  | none => .error (.panic "ran out of cached GPIO device slots")

/-- PL_GPIO of `input_gpio_init`. -/
def initPin (pins : Gpio → GpioPin) (driver : GpioDriver δ) (s : GpioState δ) (g : Gpio) :
    Except GpioFault (GpioState δ) :=
  match driver.deviceGetBinding (pins g).label with
  | none => .error (.panic ("failed to find gpio device " ++ (pins g).label))
  | some device =>
      if driver.gpioPinConfigure g ≠ 0 then
        .error (.panic ("failed to configure gpio pin (device = " ++ (pins g).label ++ ", pin = " ++
          toString (pins g).pin.val ++ ")"))
      else do
        let (offset, s) ← s.gpioDeviceAdd device
        return { s with indices := Function.update s.indices g offset }

def inputGpioInit (b : Board) (pins : Gpio → GpioPin) (driver : GpioDriver δ) :
    Except GpioFault (GpioState δ) :=
  (Gpio.all.filter b.available).foldlM (initPin pins driver) boot

/-! ### A poll -/

/-- The devices whose ports a poll reads, one after the other. -/
def read (s : GpioState δ) : List (Option δ) := s.devices.slots.take s.devices.count

/-- `port` is what `gpio_port_get_raw` returns for a device, and what it writes. -/
def readPort (port : δ → Int × UInt32) : Option δ → Except GpioFault UInt32
  | none => .error .wild
  | some device =>
      if (port device).1 ≠ 0 then .error (.panic "failed to get gpio values")
      else .ok (port device).2

def portValues (s : GpioState δ) (port : δ → Int × UInt32) : Except GpioFault (List UInt32) :=
  s.read.mapM (readPort port)

/-- PL_GPIO of `input_get_raw_state`. -/
def readPin (pins : Gpio → GpioPin) (s : GpioState δ) (portValues : List UInt32)
    (out : RawInputState) (g : Gpio) : Except GpioFault RawInputState :=
  match portValues[s.indices g]? with
  | none => .error .wild
  | some portValue => .ok (Function.update out g ((pins g).level portValue))

def readPins (b : Board) (pins : Gpio → GpioPin) (s : GpioState δ) (port : δ → Int × UInt32)
    (out : RawInputState) : Except GpioFault RawInputState := do
  let portValues ← s.portValues port
  (Gpio.all.filter b.available).foldlM (readPin pins s portValues) out

/-- An input of the queue is returned before the ports are read. -/
def inputGetRawState (b : Board) (pins : Gpio → GpioPin) (s : GpioState δ)
    (queued : Option RawInputState) (port : δ → Int × UInt32) (out : RawInputState) :
    Except GpioFault RawInputState :=
  if b.inputQueue then
    match queued with
    | some input => .ok input
    | none => readPins b pins s port out
  else readPins b pins s port out

end GpioState

/-! ### The ports that are found -/

section Init
variable {δ : Type*} [DecidableEq δ] (pins : Gpio → GpioPin) (driver : GpioDriver δ)

def boundDevices (gs : List Gpio) : List δ :=
  gs.filterMap fun g => driver.deviceGetBinding (pins g).label

/-- The different devices, in the order in which they are found. -/
def ports (gs : List Gpio) : List δ := (boundDevices pins driver gs).foldl Slots.grow []

/-- The pin has a device, which accepts its configuration. -/
def Wired (g : Gpio) : Prop :=
  (driver.deviceGetBinding (pins g).label).isSome = true ∧ driver.gpioPinConfigure g = 0

/-- Every input that has been initialised has the index of its device. -/
structure Cached (gs : List Gpio) (s : GpioState δ) : Prop where
  holds : s.devices.Holds gpioPortCount (ports pins driver gs)
  indices : ∀ g ∈ gs, ∃ device, driver.deviceGetBinding (pins g).label = some device ∧
    (ports pins driver gs)[s.indices g]? = some device

variable {pins driver} {s : GpioState δ} {done : List Gpio}

theorem ports_concat {g : Gpio} {device : δ}
    (is : driver.deviceGetBinding (pins g).label = some device) :
    ports pins driver (done ++ [g]) = Slots.grow (ports pins driver done) device := by
  rw [ports, boundDevices, List.filterMap_append, List.foldl_append, List.filterMap_cons, is]
  rfl

theorem cached_boot : Cached pins driver [] GpioState.boot where
  holds := Slots.holds_empty gpioPortCount
  indices g member := by cases member

theorem ports_extend (gs more : List Gpio) :
    ports pins driver gs <+: ports pins driver (gs ++ more) := by
  rw [ports, ports, boundDevices, boundDevices, List.filterMap_append, List.foldl_append]
  exact (Slots.grow_run _ _).1

theorem initPin_cases (cached : Cached pins driver done s) (g : Gpio) :
    (Wired pins driver g ∧ (ports pins driver (done ++ [g])).length ≤ gpioPortCount ∧
      ∃ s', s.initPin pins driver g = .ok s' ∧ Cached pins driver (done ++ [g]) s') ∨
    (¬ (Wired pins driver g ∧ (ports pins driver (done ++ [g])).length ≤ gpioPortCount) ∧
      ∃ text, s.initPin pins driver g = .error (.panic text)) := by
  unfold GpioState.initPin
  cases is : driver.deviceGetBinding (pins g).label with
  | none =>
      refine .inr ⟨?_, _, rfl⟩
      rintro ⟨⟨found, -⟩, -⟩
      rw [is] at found
      cases found
  | some device =>
      dsimp only
      split
      · rename_i refused
        exact .inr ⟨fun both => refused both.1.2, _, rfl⟩
      · rename_i accepted
        have wired : Wired pins driver g := ⟨by rw [is]; rfl, not_not.mp accepted⟩
        have grown : ports pins driver (done ++ [g]) =
            Slots.grow (ports pins driver done) device := ports_concat is
        rw [grown]
        rcases cached.holds.add device with ⟨full, added⟩ | ⟨i, devices, added, holds, slot⟩
        · refine .inr ⟨fun both => Nat.not_lt.mpr both.2 full,
            "ran out of cached GPIO device slots", ?_⟩
          simp only [GpioState.gpioDeviceAdd, added]
          rfl
        · refine .inl ⟨wired, holds.room, ⟨devices, Function.update s.indices g i⟩, ?_, ?_⟩
          · simp only [GpioState.gpioDeviceAdd, added]
            rfl
          · refine ⟨grown ▸ holds, ?_⟩
            intro g' member
            rw [grown]
            dsimp only
            by_cases same : g' = g
            · subst same
              rw [Function.update_self]
              exact ⟨device, is, slot⟩
            · have old : g' ∈ done := by
                rcases List.mem_append.mp member with old | new
                · exact old
                · exact absurd (List.mem_singleton.mp new) same
              obtain ⟨device', is', kept⟩ := cached.indices g' old
              rw [Function.update_of_ne same]
              exact ⟨device', is', Slots.getElem?_grow kept device⟩

/-- The loop panics at the first pin that is not wired, or whose device is one too many. -/
theorem initPins_cases (gs : List Gpio) (cached : Cached pins driver done s) :
    ((∀ g ∈ gs, Wired pins driver g) ∧
      (ports pins driver (done ++ gs)).length ≤ gpioPortCount ∧
      ∃ s', gs.foldlM (GpioState.initPin pins driver) s = .ok s' ∧
        Cached pins driver (done ++ gs) s') ∨
    (¬ ((∀ g ∈ gs, Wired pins driver g) ∧
        (ports pins driver (done ++ gs)).length ≤ gpioPortCount) ∧
      ∃ text, gs.foldlM (GpioState.initPin pins driver) s = .error (.panic text)) := by
  induction gs generalizing s done with
  | nil =>
      rw [List.append_nil]
      exact .inl ⟨List.forall_mem_nil _, cached.holds.room, s, rfl, cached⟩
  | cons g gs ih =>
      have parts : done ++ g :: gs = (done ++ [g]) ++ gs := by
        rw [List.append_assoc, List.singleton_append]
      rw [List.foldlM_cons, parts, List.forall_mem_cons]
      rcases initPin_cases cached g with ⟨wired, room, s', first, cached'⟩ | ⟨fails, text, first⟩
      · rw [first]
        rcases ih cached' with ⟨others, room', s'', rest, cached''⟩ | ⟨fails, text, rest⟩
        · exact .inl ⟨⟨wired, others⟩, room', s'', rest, cached''⟩
        · exact .inr ⟨fun both => fails ⟨both.1.2, both.2⟩, text, rest⟩
      · rw [first]
        refine .inr ⟨?_, text, rfl⟩
        rintro ⟨⟨wired, -⟩, room⟩
        exact fails ⟨wired, Nat.le_trans (ports_extend _ gs).length_le room⟩

end Init

/-! ### What a poll reads -/

section Read
variable {δ : Type*} {pins : Gpio → GpioPin} {driver : GpioDriver δ}

theorem readPorts_cases (port : δ → Int × UInt32) (devices : List δ) :
    ((∀ device ∈ devices, (port device).1 = 0) ∧
      (devices.map some).mapM (GpioState.readPort port) =
        .ok (devices.map fun device => (port device).2)) ∨
    ((∃ device ∈ devices, (port device).1 ≠ 0) ∧
      (devices.map some).mapM (GpioState.readPort port) =
        .error (.panic "failed to get gpio values")) := by
  induction devices with
  | nil => exact .inl ⟨List.forall_mem_nil _, rfl⟩
  | cons device devices ih =>
      rw [List.map_cons, List.mapM_cons, List.forall_mem_cons, List.exists_mem_cons_iff]
      by_cases first : (port device).1 = 0
      · have value : GpioState.readPort port (some device) = .ok (port device).2 :=
          if_neg (not_not.mpr first)
        rw [value]
        rcases ih with ⟨others, rest⟩ | ⟨fails, rest⟩
        · rw [rest]
          exact .inl ⟨⟨first, others⟩, rfl⟩
        · rw [rest]
          exact .inr ⟨.inr fails, rfl⟩
      · have fault : GpioState.readPort port (some device) =
            .error (.panic "failed to get gpio values") := if_pos first
        rw [fault]
        exact .inr ⟨.inl first, rfl⟩

/-- The level of an input as a read of its own port alone would give it. -/
def directLevel (pins : Gpio → GpioPin) (driver : GpioDriver δ) (port : δ → Int × UInt32)
    (g : Gpio) : Bool :=
  match driver.deviceGetBinding (pins g).label with
  | none => false
  | some device => (pins g).level (port device).2
variable [DecidableEq δ] {s : GpioState δ} {gs : List Gpio}

theorem read_ports (cached : Cached pins driver gs s) : s.read = (ports pins driver gs).map some := by
  obtain ⟨⟨size, count, room, -, slots⟩, -⟩ := cached
  refine List.ext_getElem? ?_
  intro i
  rw [GpioState.read, List.getElem?_take, List.getElem?_map, count]
  split
  · rename_i low
    rw [slots i (Nat.lt_of_lt_of_le low room), List.getElem?_eq_getElem low]
    rfl
  · rename_i high
    rw [List.getElem?_eq_none (Nat.not_lt.mp high)]
    rfl

theorem readPins_ok (cached : Cached pins driver gs s) (port : δ → Int × UInt32)
    (more : List Gpio) (known : ∀ g ∈ more, g ∈ gs) (out : RawInputState) :
    more.foldlM (GpioState.readPin pins s ((ports pins driver gs).map fun device =>
        (port device).2)) out =
      .ok fun g => if g ∈ more then directLevel pins driver port g else out g := by
  induction more generalizing out with
  | nil => rfl
  | cons g more ih =>
      obtain ⟨device, bound, index⟩ := cached.indices g (known g List.mem_cons_self)
      have step : GpioState.readPin pins s ((ports pins driver gs).map fun device =>
          (port device).2) out g =
            .ok (Function.update out g (directLevel pins driver port g)) := by
        rw [GpioState.readPin, List.getElem?_map, index, directLevel, bound]
        rfl
      rw [List.foldlM_cons, step]
      refine (ih (fun g member => known g (List.mem_cons_of_mem _ member)) _).trans ?_
      congr 1
      funext g'
      by_cases later : g' ∈ more
      · rw [if_pos later, if_pos (List.mem_cons_of_mem g later)]
      · rw [if_neg later]
        by_cases same : g' = g
        · subst same
          rw [Function.update_self, if_pos List.mem_cons_self]
        · rw [Function.update_of_ne same,
            if_neg fun member => (List.mem_cons.mp member).elim same later]

end Read

/-- `gpio_port_get_raw` fails for one of the ports. -/
def Unreadable {δ : Type*} (s : GpioState δ) (port : δ → Int × UInt32) : Prop :=
  ∃ device, some device ∈ s.read ∧ (port device).1 ≠ 0

/-- A poll reads the port of every device that is used, and none twice. It returns what reading
the pins one by one would, and panics exactly if it comes to a port that cannot be read. -/
structure Serves {δ : Type*} (b : Board) (pins : Gpio → GpioPin) (driver : GpioDriver δ)
    (s : GpioState δ) : Prop where
  once : s.read.Nodup
  used : ∀ slot, slot ∈ s.read ↔ ∃ g device, b.available g = true ∧
    driver.deviceGetBinding (pins g).label = some device ∧ slot = some device
  reads : ∀ (d : Device) (p : Poll) (port : δ → Int × UInt32), b.inputMethod = .gpio →
    p.pins = directLevel pins driver port →
    (¬ Unreadable s port ∨ b.inputQueue = true ∧ p.queued.isSome = true) →
    s.inputGetRawState b pins p.queued port p.uninitialised = .ok (inputGetRawState b d p)
  panics : ∀ (p : Poll) (port : δ → Int × UInt32), Unreadable s port →
    ¬ (b.inputQueue = true ∧ p.queued.isSome = true) →
    s.inputGetRawState b pins p.queued port p.uninitialised =
      .error (.panic "failed to get gpio values")

section Serves
variable {δ : Type*} [DecidableEq δ] {b : Board} {pins : Gpio → GpioPin} {driver : GpioDriver δ}
variable {s : GpioState δ}

theorem mem_available {g : Gpio} : g ∈ Gpio.all.filter b.available ↔ b.available g = true := by
  rw [List.mem_filter, and_iff_right g.mem_all]

theorem readPins_cases (cached : Cached pins driver (Gpio.all.filter b.available) s)
    (port : δ → Int × UInt32) (out : RawInputState) :
    (¬ Unreadable s port ∧ s.readPins b pins port out =
      .ok fun g => if b.available g then directLevel pins driver port g else out g) ∨
    (Unreadable s port ∧
      s.readPins b pins port out = .error (.panic "failed to get gpio values")) := by
  have read := read_ports cached
  have slots (device : δ) :
      some device ∈ s.read ↔ device ∈ ports pins driver (Gpio.all.filter b.available) := by
    rw [read, List.mem_map_of_injective (Option.some_injective δ)]
  rw [GpioState.readPins, GpioState.portValues, read]
  rcases readPorts_cases port (ports pins driver (Gpio.all.filter b.available)) with
    ⟨fine, values⟩ | ⟨⟨device, member, fails⟩, fault⟩
  · refine .inl ⟨?_, ?_⟩
    · rintro ⟨device, member, fails⟩
      exact fails (fine device ((slots device).mp member))
    · rw [values]
      refine (readPins_ok cached port _ (fun _ member => member) out).trans ?_
      congr 1
      funext g
      by_cases available : b.available g = true
      · rw [if_pos available, if_pos (mem_available.mpr available)]
      · rw [if_neg available, if_neg (mt mem_available.mp available)]
  · refine .inr ⟨⟨device, (slots device).mpr member, fails⟩, ?_⟩
    rw [fault]
    rfl

theorem mem_ports {device : δ} : device ∈ ports pins driver (Gpio.all.filter b.available) ↔
    ∃ g, b.available g = true ∧ driver.deviceGetBinding (pins g).label = some device := by
  rw [ports, (Slots.grow_run _ _).2.1, or_iff_right List.not_mem_nil, boundDevices,
    List.mem_filterMap]
  constructor
  · rintro ⟨g, member, is⟩
    exact ⟨g, mem_available.mp member, is⟩
  · rintro ⟨g, available, is⟩
    exact ⟨g, mem_available.mpr available, is⟩

theorem Cached.serves (cached : Cached pins driver (Gpio.all.filter b.available) s) :
    Serves b pins driver s := by
  have read := read_ports cached
  refine ⟨?_, ?_, ?_, ?_⟩
  · rw [read]
    exact cached.holds.nodup.map (Option.some_injective δ)
  · intro slot
    rw [read, List.mem_map]
    constructor
    · rintro ⟨device, member, rfl⟩
      obtain ⟨g, available, is⟩ := mem_ports.mp member
      exact ⟨g, device, available, is, rfl⟩
    · rintro ⟨g, device, available, is, rfl⟩
      exact ⟨device, mem_ports.mpr ⟨g, available, is⟩, rfl⟩
  · intro d p port gpio levels readable
    have direct (fine : ¬ Unreadable s port) : s.readPins b pins port p.uninitialised =
        .ok fun g => if b.available g then p.pins g else p.uninitialised g := by
      rcases readPins_cases cached port p.uninitialised with ⟨-, is⟩ | ⟨fails, -⟩
      · rw [is, levels]
      · exact absurd fails fine
    unfold GpioState.inputGetRawState inputGetRawState
    rw [gpio]
    cases queue : b.inputQueue with
    | false =>
        have fine : ¬ Unreadable s port := readable.resolve_right fun skipped => by
          cases queue.symm.trans skipped.1
        simp only [Bool.false_eq_true, if_false]
        exact direct fine
    | true =>
        cases queued : p.queued with
        | some input => rfl
        | none =>
            have fine : ¬ Unreadable s port := readable.resolve_right fun skipped => by
              rw [queued] at skipped
              cases skipped.2
            exact direct fine
  · intro p port fails unqueued
    have faults : s.readPins b pins port p.uninitialised =
        .error (.panic "failed to get gpio values") := by
      rcases readPins_cases cached port p.uninitialised with ⟨fine, -⟩ | ⟨-, is⟩
      · exact absurd fails fine
      · exact is
    unfold GpioState.inputGetRawState
    cases queue : b.inputQueue with
    | false =>
        simp only [Bool.false_eq_true, if_false]
        exact faults
    | true =>
        cases queued : p.queued with
        | some input => exact absurd ⟨queue, by rw [queued]; rfl⟩ unqueued
        | none => exact faults

end Serves

/-- The initialisation panics exactly if a pin that is available has no device, cannot be
configured, or is on a fifth device; and if it does not, the ports serve every poll. -/
theorem gpio_ports_iff {δ : Type*} [DecidableEq δ] (b : Board) (pins : Gpio → GpioPin)
    (driver : GpioDriver δ) :
    let result := GpioState.inputGpioInit b pins driver
    ((∃ s, result = .ok s) ↔
      (∀ g, b.available g = true → Wired pins driver g) ∧
        (boundDevices pins driver (Gpio.all.filter b.available)).toFinset.card ≤ gpioPortCount) ∧
      (∀ s, result = .ok s → Serves b pins driver s) ∧
      ∀ fault, result = .error fault → ∃ text, fault = .panic text := by
  intro result
  have members (P : Gpio → Prop) : (∀ g ∈ Gpio.all.filter b.available, P g) ↔
      ∀ g, b.available g = true → P g := by
    constructor
    · intro all g available
      exact all g (mem_available.mpr available)
    · intro all g member
      exact all g (mem_available.mp member)
  have booted : Cached pins driver [] GpioState.boot := cached_boot
  have cases := initPins_cases (Gpio.all.filter b.available) booted
  rw [List.nil_append, members, ports, Slots.length_grown] at cases
  rcases cases with ⟨wired, room, s, is, cached⟩ | ⟨fails, text, is⟩
  · have is : result = .ok s := is
    rw [is]
    refine ⟨iff_of_true ⟨s, rfl⟩ ⟨wired, room⟩, ?_, ?_⟩
    · intro s' same
      cases same
      exact cached.serves
    · intro fault other
      cases other
  · have is : result = .error (.panic text) := is
    rw [is]
    refine ⟨iff_of_false ?_ fails, ?_, ?_⟩
    · rintro ⟨s, other⟩
      cases other
    · intro s other
      cases other
    · intro fault same
      cases same
      exact ⟨text, rfl⟩

/-- The pins of the microdash, all of them active low. -/
def microdashPins (g : Gpio) : GpioPin :=
  let (port, pin) : String × Fin 32 :=
    match g with
    | .stickUp => ("GPIO_1", 0)
    | .stickDown => ("GPIO_1", 6)
    | .stickRight => ("GPIO_1", 2)
    | .stickLeft => ("GPIO_0", 10)
    | .buttonNorth => ("GPIO_0", 31)
    | .buttonEast => ("GPIO_0", 29)
    | .buttonSouth => ("GPIO_0", 2)
    | .buttonWest => ("GPIO_1", 13)
    | .buttonL1 => ("GPIO_0", 5)
    | .buttonL2 => ("GPIO_0", 1)
    | .buttonR1 => ("GPIO_0", 0)
    | .buttonR2 => ("GPIO_0", 30)
    | .buttonStart => ("GPIO_1", 9)
    | .buttonHome => ("GPIO_0", 13)
    | .buttonMenu => ("GPIO_0", 4)
    | .buttonW => ("GPIO_0", 9)
    | .buttonThumbLeft => ("GPIO_1", 4)
    | .buttonThumbRight => ("GPIO_0", 22)
    | _ => ("", 0)
  ⟨port, pin, true⟩

def twoPorts : GpioDriver (Fin 2) where
  deviceGetBinding label :=
    if label = "GPIO_0" then some 0 else if label = "GPIO_1" then some 1 else none
  gpioPinConfigure _ := 0

theorem microdash_ports :
    ∃ s, GpioState.inputGpioInit microdash microdashPins twoPorts = .ok s ∧
      Serves microdash microdashPins twoPorts s := by
  obtain ⟨initialises, serves, -⟩ := gpio_ports_iff microdash microdashPins twoPorts
  have wired (g : Gpio) (available : microdash.available g = true) :
      Wired microdashPins twoPorts g := by
    refine ⟨?_, rfl⟩
    cases g <;> first | rfl | cases available
  have few : Fintype.card (Fin 2) ≤ gpioPortCount := by decide
  obtain ⟨s, is⟩ := initialises.mpr ⟨wired, Nat.le_trans (Finset.card_le_univ _) few⟩
  exact ⟨s, is, serves s is⟩

end PassingLink.Input
