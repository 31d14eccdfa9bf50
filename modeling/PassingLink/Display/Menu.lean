import PassingLink.Input.Device

/-! `menu.cpp` without its drawing: the stack of menus, the cursor and the actions of the
items. -/
namespace PassingLink.Display
open Input

def displayRows : Nat := 3

def menuStackCapacity : Nat := 8

def SOCDType.ofIndex : Nat → SOCDType
  | 0 => .neutral
  | 1 => .last
  | 2 => .negative
  | _ => .positive

def OutputMode.ofIndex : Nat → OutputMode
  | 0 => .modeDpad
  | 1 => .modeLs
  | _ => .modeRs

def getOptionCount (b : Board) : RadioMenu → Nat
  | .socd _ => 4
  | .outputMode => 3
  | .profile => (profiles b).length

def onOptionSelected (d : Device) (index : Nat) : RadioMenu → Device
  | .socd true => { d with socdTypeX := SOCDType.ofIndex index }
  | .socd false => { d with socdTypeY := SOCDType.ofIndex index }
  | .outputMode => { d with outputMode := OutputMode.ofIndex index }
  | .profile => { d with activeProfileIdx := index }

def menuItems (b : Board) (d : Device) : MenuBase → List MenuBase
  | .root => [if d.inputGetLockTick.isSome then .unlock else .lock, .output, .settings, .about]
  | .output => [.radio .outputMode, .radio .profile, .socd]
  | .socd => [.radio (.socd true), .radio (.socd false)]
  | .radio menu => (List.range (getOptionCount b menu)).map (.radioItem menu)
  | .settings => [.usbDelay, if d.menu.keepMenuSpot then .remember else .forget, .dfu]
  | .usbDelay => [.delay, .increase, .decrease]
  | .about => [.version]
  | .version => [.versionRow 0, .versionRow 1, .versionRow 2]
  | _ => []

/-- The virtual function `on_enter`: whether the item is a menu, and what its action does.
The two USB delay actions only touch the report delay and the metrics. -/
def onEnter (b : Board) (d : Device) : MenuBase → Bool × Device
  | .lock => (false, d.inputSetLocked b true d.clock)
  | .unlock => (false, d.inputSetLocked b false d.clock)
  | .radioItem parent index => (false, onOptionSelected d index parent)
  | .remember => (false, { d with menu := { d.menu with keepMenuSpot := false } })
  | .forget => (false, { d with menu := { d.menu with keepMenuSpot := true } })
  | .dfu => (false, { d with halted := true })
  | .increase | .decrease | .delay | .versionRow _ => (false, d)
  | .root | .output | .settings | .about | .radio _ | .socd | .usbDelay | .version => (true, d)

def menuFetchItems (b : Board) (d : Device) : Device :=
  let items :=
    match d.menu.stack with
    | [] => []
    | top :: _ => menuItems b d top.menu
  { d with menu := { d.menu with items } }

def menuEnter (b : Board) (d : Device) (item : MenuBase) : Device :=
  if d.menu.stack.length = menuStackCapacity then { d with halted := true }
  else
    let loc := ⟨item, d.menu.scrollIndex, d.menu.selectedIndex⟩
    let d := menuFetchItems b { d with menu := { d.menu with stack := loc :: d.menu.stack } }
    { d with menu := { d.menu with scrollIndex := 0, selectedIndex := 0 } }

def menuPush (b : Board) (d : Device) (item : MenuBase) : Device :=
  let (isMenu, d) := onEnter b d item
  if isMenu then menuEnter b d item
  -- An action may have changed what the menu it was chosen from shows.
  else menuFetchItems b d

def menuPop (b : Board) (d : Device) : Device :=
  match d.menu.stack with
  | [] => d
  | top :: stack =>
      menuFetchItems b
        { d with
          menu := { d.menu with
            scrollIndex := top.scrollIndex
            selectedIndex := top.selectedIndex
            stack } }

/-- The loop that pops until the stack is empty; every round removes one location. -/
def menuPopAll (b : Board) (d : Device) : Device :=
  (fun d => menuPop b d)^[d.menu.stack.length] d

def menuOpen (b : Board) (d : Device) : Device :=
  let d := if d.menu.keepMenuSpot then d else menuPush b (menuPopAll b d) .root
  { d with menu := { d.menu with menuOpened := true } }

def menuClose (b : Board) (d : Device) : Device :=
  let d := if d.menu.keepMenuSpot then d else menuPopAll b d
  { d with menu := { d.menu with menuOpened := false } }

def menuInput (b : Board) (d : Device) : MenuInput → Device
  | .up =>
      if d.menu.selectedIndex ≠ 0 then
        let selectedIndex := d.menu.selectedIndex - 1
        let scrollIndex :=
          if selectedIndex < d.menu.scrollIndex then selectedIndex else d.menu.scrollIndex
        { d with menu := { d.menu with selectedIndex, scrollIndex } }
      else d
  | .down =>
      if d.menu.selectedIndex + 1 < d.menu.items.length then
        let selectedIndex := d.menu.selectedIndex + 1
        let scrollIndex :=
          if selectedIndex ≥ d.menu.scrollIndex + displayRows then d.menu.scrollIndex + 1
          else d.menu.scrollIndex
        { d with menu := { d.menu with selectedIndex, scrollIndex } }
      else d
  | .left => if d.menu.stack.length ≠ 1 then menuPop b d else d
  | .right =>
      match d.menu.items[d.menu.selectedIndex]? with
      | some item => menuPush b d item
      | none => { d with halted := true } -- a read past the end of `menu_items`

def menuCall (b : Board) (d : Device) : MenuCall → Device
  | .openMenu => menuOpen b d
  | .closeMenu => menuClose b d
  | .input input => menuInput b d input

def menuCalls (b : Board) (d : Device) (calls : List MenuCall) : Device :=
  calls.foldl (menuCall b) d

def menuInit (b : Board) (d : Device) : Device :=
  menuPush b { d with menu := ⟨true, [], [], 0, 0, false⟩ } .root

/-! ### What the menu leaves alone -/

/-- Everything that is neither menu, setting nor lock is as it was. -/
structure Untouched (d d' : Device) : Prop where
  clock : d'.clock = d.clock
  rawState : d'.rawState = d.rawState
  buttonHistory : d'.buttonHistory = d.buttonHistory
  menuOpened : d'.menuOpened = d.menuOpened
  touchpadData : d'.touchpadData = d.touchpadData

theorem Untouched.refl (d : Device) : Untouched d d := ⟨rfl, rfl, rfl, rfl, rfl⟩

theorem Untouched.trans {d d' d'' : Device} (first : Untouched d d') (second : Untouched d' d'') :
    Untouched d d'' :=
  ⟨second.clock.trans first.clock, second.rawState.trans first.rawState,
    second.buttonHistory.trans first.buttonHistory, second.menuOpened.trans first.menuOpened,
    second.touchpadData.trans first.touchpadData⟩

theorem onEnter_untouched (b : Board) (d : Device) (item : MenuBase) :
    Untouched d (onEnter b d item).2 := by
  cases item with
  | radioItem parent index =>
      cases parent with
      | socd x => cases x <;> exact ⟨rfl, rfl, rfl, rfl, rfl⟩
      | outputMode | profile => exact ⟨rfl, rfl, rfl, rfl, rfl⟩
  | _ => exact ⟨rfl, rfl, rfl, rfl, rfl⟩

theorem menuEnter_untouched (b : Board) (d : Device) (item : MenuBase) :
    Untouched d (menuEnter b d item) := by
  unfold menuEnter
  split <;> exact ⟨rfl, rfl, rfl, rfl, rfl⟩

theorem menuPush_untouched (b : Board) (d : Device) (item : MenuBase) :
    Untouched d (menuPush b d item) := by
  apply (onEnter_untouched b d item).trans
  unfold menuPush
  split
  rename_i isMenu d' entered
  rw [entered]
  split
  · exact menuEnter_untouched b d' item
  · exact ⟨rfl, rfl, rfl, rfl, rfl⟩

theorem menuPop_untouched (b : Board) (d : Device) : Untouched d (menuPop b d) := by
  unfold menuPop
  split
  · exact .refl d
  · exact ⟨rfl, rfl, rfl, rfl, rfl⟩

/-- The loop keeps what every round of it keeps. -/
theorem menuPopAll_keeps {b : Board} {d : Device} {P : Device → Prop} (holds : P d)
    (pop : ∀ d, P d → P (menuPop b d)) : P (menuPopAll b d) :=
  Function.Iterate.rec P holds pop d.menu.stack.length

theorem menuPopAll_untouched (b : Board) (d : Device) : Untouched d (menuPopAll b d) := by
  apply menuPopAll_keeps (P := Untouched d) (.refl d)
  intro d' before
  exact before.trans (menuPop_untouched b d')

theorem menuOpen_untouched (b : Board) (d : Device) : Untouched d (menuOpen b d) := by
  unfold menuOpen
  split
  · exact ⟨rfl, rfl, rfl, rfl, rfl⟩
  · have emptied := menuPopAll_untouched b d
    have pushed := menuPush_untouched b (menuPopAll b d) .root
    exact emptied.trans (pushed.trans ⟨rfl, rfl, rfl, rfl, rfl⟩)

theorem menuClose_untouched (b : Board) (d : Device) : Untouched d (menuClose b d) := by
  unfold menuClose
  split
  · exact ⟨rfl, rfl, rfl, rfl, rfl⟩
  · exact (menuPopAll_untouched b d).trans ⟨rfl, rfl, rfl, rfl, rfl⟩

theorem menuInput_untouched (b : Board) (d : Device) (input : MenuInput) :
    Untouched d (menuInput b d input) := by
  unfold menuInput
  split
  · split
    · exact ⟨rfl, rfl, rfl, rfl, rfl⟩
    · exact .refl d
  · split
    · exact ⟨rfl, rfl, rfl, rfl, rfl⟩
    · exact .refl d
  · split
    · exact menuPop_untouched b d
    · exact .refl d
  · split
    · exact menuPush_untouched b d _
    · exact ⟨rfl, rfl, rfl, rfl, rfl⟩

/-- Whatever is called in the menu, the clock, the inputs and their history stay. -/
theorem menuCalls_untouched (b : Board) (d : Device) (calls : List MenuCall) :
    Untouched d (menuCalls b d calls) := by
  induction calls generalizing d with
  | nil => exact .refl d
  | cons call calls ih =>
      refine Untouched.trans ?_ (ih (menuCall b d call))
      cases call with
      | openMenu => exact menuOpen_untouched b d
      | closeMenu => exact menuClose_untouched b d
      | input input => exact menuInput_untouched b d input

theorem menuClose_settings (b : Board) (d : Device) :
    (menuClose b d).outputMode = d.outputMode ∧ (menuClose b d).inputLocked = d.inputLocked := by
  unfold menuClose
  split
  · exact ⟨rfl, rfl⟩
  · refine menuPopAll_keeps
      (P := fun d' => d'.outputMode = d.outputMode ∧ d'.inputLocked = d.inputLocked) ⟨rfl, rfl⟩ ?_
    intro d' before
    unfold menuPop
    split
    · exact before
    · exact before

end PassingLink.Display
