import PassingLink.Display.Panel

/-! What the menu may set: the profile and the USB delay stay in their ranges, and no menu has more
items than there is room for. -/
namespace PassingLink.Display
open Input Lib Output

/-- The size of `menu_items_storage`, and of the items of a `RadioMenu`. -/
def menuItemsCapacity : Nat := 8

/-- The active profile is one of the profiles, and every option on the screen is one that there
is, so that all casts of an index are to enumerators and no array is read past its end. -/
structure OptionsInRange (b : Board) (d : Device) : Prop where
  profile : d.activeProfileIdx < (profiles b).length
  options : ∀ parent index, .radioItem parent index ∈ d.menu.items →
    index < getOptionCount b parent

/-- A millisecond, and the tick that is added before it is exceeded. -/
def DelayInRange (b : Board) (ticks : UInt32) : Prop := ticks.toNat ≤ b.ticksPerSec / 1000 + 1

section Options
variable {b : Board} {d : Device}

theorem menuItems_options (b : Board) (d : Device) (menu : MenuBase) (parent : RadioMenu)
    (index : Nat) (member : .radioItem parent index ∈ menuItems b d menu) :
    index < getOptionCount b parent := by
  cases menu with
  | radio menu =>
      obtain ⟨i, below, same⟩ := List.mem_map.mp member
      cases same
      exact List.mem_range.mp below
  | root | settings =>
      simp only [menuItems, List.mem_cons, List.not_mem_nil, or_false, false_or,
        reduceCtorEq] at member
      split at member
      · cases member
      · cases member
  | output | socd | usbDelay | about | version =>
      simp only [menuItems, List.mem_cons, List.not_mem_nil, or_false, reduceCtorEq] at member
  | _ => cases member

/-- The option that a menu shows as selected is one of its own. -/
theorem OptionsInRange.selected (range : OptionsInRange b d) (menu : RadioMenu) :
    getSelectedOption d menu < getOptionCount b menu := by
  cases menu with
  | socd x =>
      simp only [getSelectedOption, getOptionCount]
      split <;> decide
  | outputMode =>
      simp only [getSelectedOption, getOptionCount]
      split <;> decide
  | profile => exact range.profile

theorem OptionsInRange.fetch (range : OptionsInRange b d) :
    OptionsInRange b (menuFetchItems b d) := by
  refine ⟨range.profile, ?_⟩
  intro parent index member
  unfold menuFetchItems at member
  cases shape : d.menu.stack with
  | nil =>
      simp only [shape] at member
      cases member
  | cons top rest =>
      simp only [shape] at member
      exact menuItems_options b d top.menu parent index member

theorem OptionsInRange.enter (range : OptionsInRange b d) (item : MenuBase) :
    OptionsInRange b (menuEnter b d item) := by
  unfold menuEnter
  split
  · exact ⟨range.profile, range.options⟩
  · have fetched := OptionsInRange.fetch (b := b)
      (d := { d with
        menu := { d.menu with
          stack := ⟨item, d.menu.scrollIndex, d.menu.selectedIndex⟩ :: d.menu.stack } })
      ⟨range.profile, range.options⟩
    exact ⟨fetched.profile, fetched.options⟩

theorem OptionsInRange.push (range : OptionsInRange b d) {item : MenuBase}
    (inside : ∀ parent index, item = .radioItem parent index → index < getOptionCount b parent) :
    OptionsInRange b (menuPush b d item) := by
  have entered : OptionsInRange b (onEnter b d item).2 := by
    cases item with
    | radioItem parent index =>
        have low := inside parent index rfl
        cases parent with
        | socd x => cases x <;> exact ⟨range.profile, range.options⟩
        | outputMode => exact ⟨range.profile, range.options⟩
        | profile => exact ⟨low, range.options⟩
    | _ => exact ⟨range.profile, range.options⟩
  unfold menuPush
  split
  rename_i isMenu d' is
  rw [is] at entered
  split
  · exact entered.enter item
  · exact entered.fetch

theorem OptionsInRange.pop (range : OptionsInRange b d) : OptionsInRange b (menuPop b d) := by
  unfold menuPop
  split
  · exact range
  · exact OptionsInRange.fetch ⟨range.profile, range.options⟩

theorem OptionsInRange.popAll (range : OptionsInRange b d) : OptionsInRange b (menuPopAll b d) :=
  menuPopAll_keeps (P := OptionsInRange b) range fun _ => .pop

theorem OptionsInRange.call (range : OptionsInRange b d) (call : MenuCall) :
    OptionsInRange b (menuCall b d call) := by
  cases call with
  | openMenu =>
      simp only [menuCall, menuOpen]
      split
      · exact ⟨range.profile, range.options⟩
      · have pushed : OptionsInRange b (menuPush b (menuPopAll b d) .root) :=
          range.popAll.push fun _ _ other => by cases other
        exact ⟨pushed.profile, pushed.options⟩
  | closeMenu =>
      simp only [menuCall, menuClose]
      split
      · exact ⟨range.profile, range.options⟩
      · exact ⟨range.popAll.profile, range.popAll.options⟩
  | input input =>
      cases input with
      | up | down =>
          simp only [menuCall, menuInput]
          split
          · exact ⟨range.profile, range.options⟩
          · exact range
      | left =>
          simp only [menuCall, menuInput]
          split
          · exact range.pop
          · exact range
      | right =>
          simp only [menuCall, menuInput]
          split
          · rename_i item chosen
            apply range.push
            rintro parent index rfl
            exact range.options parent index (List.mem_of_getElem? chosen)
          · exact ⟨range.profile, range.options⟩

theorem OptionsInRange.calls (range : OptionsInRange b d) (calls : List MenuCall) :
    OptionsInRange b (menuCalls b d calls) :=
  @run_invariant _ _ (menuCall b) (OptionsInRange b) (fun _ call before => before.call call) _ range
    calls

theorem OptionsInRange.step (range : OptionsInRange b d) (e : Input.Event) :
    OptionsInRange b (d.step b e) := by
  cases halted : d.halted with
  | true =>
      rw [step_halted halted]
      exact range
  | false =>
      cases e with
      | poll p =>
          rw [step_poll halted, poll_eq]
          have polled : OptionsInRange b
              { d.polled b p with menuOpened := (d.gesture b p).menuOpened } :=
            ⟨range.profile, range.options⟩
          exact polled.calls _
      | setLocked | setRawState =>
          simp only [Device.step, halted, Bool.false_eq_true, if_false]
          exact ⟨range.profile, range.options⟩

end Options

/-! ### The delay of the reports -/

section Delay
variable {b : Board} {s : Front}

theorem kTicksToUsCeil32_le {ticksPerSec : Nat} {ticks : UInt32} (rate : 0 < ticksPerSec)
    (range : ticks.toNat ≤ ticksPerSec / 1000 + 1) :
    kTicksToUsCeil32 ticksPerSec ticks ≤ 1000 ↔ ticks.toNat * 1000000 ≤ 1000 * ticksPerSec := by
  have bound : ticks.toNat * 1000000 ≤ ticksPerSec * 1001000 := by omega
  have below : (ticks.toNat * 1000000) ⌈/⌉ ticksPerSec ≤ 1001000 :=
    (ceilDiv_le_iff_le_mul rate).mpr bound
  have exact : (kTicksToUsCeil32 ticksPerSec ticks).toNat =
      (ticks.toNat * 1000000) ⌈/⌉ ticksPerSec :=
    UInt32.toNat_ofNat_of_lt' (Nat.lt_of_le_of_lt below (by decide))
  have limit : (1000 : UInt32).toNat = 1000 := rfl
  rw [UInt32.le_iff_toNat_le, exact, limit, ceilDiv_le_iff_le_mul rate, Nat.mul_comm 1000]

theorem usbDelayIncrease_range (rate : 0 < b.ticksPerSec) (word : b.ticksPerSec < 2 ^ 32)
    (range : DelayInRange b s.hidReportDelayTicks) :
    DelayInRange b (s.usbDelayIncrease b).hidReportDelayTicks := by
  unfold Front.usbDelayIncrease
  split
  · exact range
  · rename_i short
    have fits := (kTicksToUsCeil32_le rate range).mp (UInt32.not_lt.mp short)
    have next : (s.hidReportDelayTicks + 1).toNat = s.hidReportDelayTicks.toNat + 1 := by
      have one : (1 : UInt32).toNat = 1 := rfl
      rw [UInt32.toNat_add, one, Nat.mod_eq_of_lt (by omega)]
    unfold DelayInRange
    rw [next]
    omega

theorem usbDelayDecrease_range (range : DelayInRange b s.hidReportDelayTicks) :
    DelayInRange b s.usbDelayDecrease.hidReportDelayTicks := by
  unfold Front.usbDelayDecrease
  split
  · exact range
  · rename_i nonzero
    have pos : s.hidReportDelayTicks.toNat ≠ 0 := fun zero => nonzero (UInt32.toNat_inj.mp zero)
    have one : (1 : UInt32).toNat = 1 := rfl
    have before : (s.hidReportDelayTicks - 1).toNat = s.hidReportDelayTicks.toNat - 1 := by
      rw [UInt32.toNat_sub_of_le]
      · rfl
      · rw [UInt32.le_iff_toNat_le, one]
        omega
    unfold DelayInRange at range ⊢
    rw [before]
    omega

end Delay

theorem Windowed.step {b : Board} {d : Device} (windowed : Windowed b d) (e : Input.Event) :
    Windowed b (d.step b e) := by
  cases halted : d.halted with
  | true =>
      rw [step_halted halted]
      exact windowed
  | false =>
      cases e with
      | poll p =>
          rw [step_poll halted, poll_eq]
          have polled : Windowed b
              { d.polled b p with menuOpened := (d.gesture b p).menuOpened } :=
            Windowed.of_menu (d := d) rfl windowed
          exact @run_invariant _ _ (menuCall b) (Windowed b)
            (fun _ call before => windowed_call before call) _ polled _
      | setLocked | setRawState =>
          simp only [Device.step, halted, Bool.false_eq_true, if_false]
          exact Windowed.of_menu (d := d) rfl windowed

section Runs
variable {memory : Memory} {b : Board} {version : CString}

/-- Only the two actions of the USB menu touch the delay. -/
theorem onEnter_range {s : Front} (rate : 0 < b.ticksPerSec) (word : b.ticksPerSec < 2 ^ 32)
    (range : DelayInRange b s.hidReportDelayTicks) (item : MenuBase) :
    DelayInRange b (s.onEnter memory b item).hidReportDelayTicks := by
  have kept (locked : Bool) : (s.showLocked memory b locked).hidReportDelayTicks =
      s.hidReportDelayTicks := by
    unfold Front.showLocked
    split <;> rfl
  unfold Front.onEnter
  split
  · exact (kept true).symm ▸ range
  · exact (kept false).symm ▸ range
  · exact usbDelayIncrease_range rate word range
  · exact usbDelayDecrease_range range
  · exact range

theorem moved_delay (s : Front) (call : MenuCall) :
    (s.moved memory b version call).hidReportDelayTicks = s.hidReportDelayTicks := by
  simp only [Front.moved]
  split
  · rfl
  · unfold Front.menuDraw
    split <;> rfl

theorem call_range {s : Front} (rate : 0 < b.ticksPerSec) (word : b.ticksPerSec < 2 ^ 32)
    (range : DelayInRange b s.hidReportDelayTicks) (call : MenuCall) :
    DelayInRange b (s.call memory b version call).hidReportDelayTicks := by
  have kept (call : MenuCall) :
      DelayInRange b (s.moved memory b version call).hidReportDelayTicks :=
    (moved_delay s call).symm ▸ range
  cases call with
  | openMenu | closeMenu => exact kept _
  | input input =>
      cases input with
      | right =>
          simp only [Front.call]
          split
          · rw [moved_delay]
            exact onEnter_range rate word range _
          · exact kept (.input .right)
      | up | down | left =>
          simp only [Front.call]
          split
          · exact kept _
          · exact range

structure SettingsInRange (b : Board) (s : Front) : Prop where
  windowed : Windowed b s.device
  options : OptionsInRange b s.device
  delay : DelayInRange b s.hidReportDelayTicks

theorem SettingsInRange.step (rate : 0 < b.ticksPerSec) (word : b.ticksPerSec < 2 ^ 32) (s : Front)
    (e : FrontEvent) (range : SettingsInRange b s) :
    SettingsInRange b (s.step memory b version e) := by
  cases halted : s.device.halted with
  | true =>
      have still : s.step memory b version e = s := if_pos halted
      rw [still]
      exact range
  | false =>
      obtain ⟨windowed, options, delay⟩ := range
      cases e with
      | input e =>
          have device := @Front.step_input_device memory b version s e
          refine ⟨device.symm ▸ windowed.step e, device.symm ▸ options.step e, ?_⟩
          simp only [Front.step, halted, Bool.false_eq_true, if_false]
          cases e with
          | poll p =>
              exact @run_invariant _ _ (Front.call memory b version)
                (fun s => DelayInRange b s.hidReportDelayTicks)
                (fun _ call before => call_range rate word before call) (s.polled b p) delay _
          | setLocked locked elapsed =>
              simp only [Front.input, Front.showLocked]
              split <;> exact delay
          | setRawState raw => exact delay
      | menu call =>
          simp only [Front.step, halted, Bool.false_eq_true, if_false]
          have device := @Front.call_device memory b version s call
          exact ⟨device.symm ▸ windowed_call windowed call, device.symm ▸ options.call call,
            call_range rate word delay call⟩
      | connection | uninit =>
          simp only [Front.step, halted, Bool.false_eq_true, if_false]
          exact ⟨windowed, options, delay⟩
      | inputRead ticks =>
          simp only [Front.step, halted, Bool.false_eq_true, if_false, Front.recordInputRead]
          split <;> exact ⟨windowed, options, delay⟩
      | usbWrite ticks =>
          simp only [Front.step, halted, Bool.false_eq_true, if_false, Front.recordUsbWrite]
          split
          · split <;> exact ⟨windowed, options, delay⟩
          · exact ⟨windowed, options, delay⟩
      | touchpad data =>
          simp only [Front.step, halted, Bool.false_eq_true, if_false]
          have same : Windowed b { s.device with touchpadData := data } :=
            Windowed.of_menu (d := s.device) rfl windowed
          exact ⟨halted ▸ same, ⟨options.profile, options.options⟩, delay⟩

theorem settings_init (memory : Memory) (b : Board) (d : Device) (ticks : UInt32)
    (profile : d.activeProfileIdx < (profiles b).length) (delay : DelayInRange b ticks) :
    SettingsInRange b (Front.displayInit memory b d ticks) := by
  refine ⟨windowed_init b d, ?_, delay⟩
  have empty : OptionsInRange b { d with menu := ⟨true, [], [], 0, 0, false⟩ } :=
    ⟨profile, fun _ _ member => by cases member⟩
  have pushed : OptionsInRange b (menuInit b d) := empty.push fun _ _ other => by cases other
  exact pushed

theorem itemCount_le (b : Board) (menu : MenuBase) : itemCount b menu ≤ 4 := by
  cases menu with
  | radio parent =>
      cases parent with
      | socd x => exact Nat.le_refl 4
      | outputMode => exact Nat.le_succ 3
      | profile =>
          simp only [itemCount, getOptionCount, profiles]
          split
          · exact Nat.le_succ 3
          · exact Nat.succ_le_succ (Nat.zero_le 3)
  | _ => exact of_decide_eq_true rfl

theorem Windowed.roomy {d : Device} (windowed : Windowed b d) :
    d.menu.items.length ≤ menuItemsCapacity := by
  have capacity : menuItemsCapacity = 8 := rfl
  rw [windowed.count, capacity]
  cases d.menu.stack with
  | nil => exact Nat.zero_le 8
  | cons top rest => exact Nat.le_trans (itemCount_le b top.menu) (by decide)

end Runs

/-- In every run of polls, menu calls, locks and draws the active profile is one that there is, the
options on the screen and the selected ones are those of their menus, the items fit into their
storage, and the USB delay is at most a tick longer than a millisecond. -/
theorem settings_in_range (memory : Memory) (b : Board) (version : CString) (d : Device)
    (ticks : UInt32) (rate : 0 < b.ticksPerSec) (word : b.ticksPerSec < 2 ^ 32)
    (profile : d.activeProfileIdx < (profiles b).length) (delay : DelayInRange b ticks)
    (es : List FrontEvent) :
    let s := run (Front.step memory b version) (Front.displayInit memory b d ticks) es
    OptionsInRange b s.device ∧
      (∀ menu, getSelectedOption s.device menu < getOptionCount b menu) ∧
      s.device.menu.items.length ≤ menuItemsCapacity ∧ DelayInRange b s.hidReportDelayTicks ∧
      (b.ticksPerSec < 99999000 → LineFits s.device (s.texts version) .delay) := by
  have initial := settings_init memory b d ticks profile delay
  obtain ⟨windowed, options, range⟩ :=
    @run_invariant _ _ (Front.step memory b version) (SettingsInRange b)
      (fun s e => SettingsInRange.step rate word s e) _ initial es
  refine ⟨options, options.selected, windowed.roomy, range, ?_⟩
  intro slow
  unfold DelayInRange at range
  change UInt32.toNat _ < 100000
  exact Nat.lt_of_le_of_lt range (by omega)

/-- The delay is lengthened in the menu and the last profile is chosen. -/
theorem settings_changed :
    let es : List FrontEvent := [.menu .openMenu, .menu (.input .down), .menu (.input .right),
      .menu (.input .down), .menu (.input .right), .menu (.input .down), .menu (.input .down),
      .menu (.input .right)]
    let s := run (Front.step noMemory microdash versionText)
      (Front.displayInit noMemory microdash (Device.boot microdash) 22) es
    s.device.activeProfileIdx = 2 ∧ OptionsInRange microdash s.device := by
  intro es s
  exact ⟨by decide, (settings_in_range noMemory microdash versionText (Device.boot microdash) 22
    (by decide) (by decide) (by decide) (by unfold DelayInRange; decide) es).1⟩

end PassingLink.Display
