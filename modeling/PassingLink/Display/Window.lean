import PassingLink.Display.Menu
import PassingLink.Lib.Runs

/-! The window of the menu: which rows are on the screen, which one is selected, and what the
stack has saved of the menus above. -/
namespace PassingLink.Display
open Input Lib

/-- How deep in the tree of menus the item is; the actions are below everything else. -/
def MenuBase.depth : MenuBase → Nat
  | .root => 0
  | .output | .settings | .about => 1
  | .radio .outputMode | .radio .profile | .socd | .usbDelay | .version => 2
  | .radio (.socd _) => 3
  | _ => 4

def itemCount (b : Board) : MenuBase → Nat
  | .root => 4
  | .output | .settings | .usbDelay | .version => 3
  | .socd => 2
  | .about => 1
  | .radio menu => getOptionCount b menu
  | _ => 0

/-- The number of rows under the menu at the top of the stack. -/
def shownCount (b : Board) : List MenuLocation → Nat
  | [] => 0
  | top :: _ => itemCount b top.menu

/-- The selection is on the screen, and no more of the screen is empty than has to be. -/
structure InWindow (count scroll selected : Nat) : Prop where
  empty : count = 0 → scroll = 0 ∧ selected = 0
  selected_lt : count ≠ 0 → selected < count
  scroll_le : scroll ≤ selected
  on_screen : selected < scroll + displayRows
  full : scroll = 0 ∨ scroll + displayRows ≤ count

/-- Every location has saved a window of the menu below it in the list, the main menu is at
the bottom, and each menu is deeper than the one it was opened from. -/
inductive Stacked (b : Board) : List MenuLocation → Prop
  | empty : Stacked b []
  | root {loc} : loc.menu = .root → loc.scrollIndex = 0 → loc.selectedIndex = 0 → Stacked b [loc]
  | enter {loc top rest} : Stacked b (top :: rest) →
      MenuBase.depth top.menu < MenuBase.depth loc.menu → MenuBase.depth loc.menu ≤ 3 →
      InWindow (itemCount b top.menu) loc.scrollIndex loc.selectedIndex →
      Stacked b (loc :: top :: rest)

structure Windowed (b : Board) (d : Device) : Prop where
  stacked : Stacked b d.menu.stack
  count : d.menu.items.length = shownCount b d.menu.stack
  deeper : ∀ item ∈ d.menu.items, ∀ top rest, d.menu.stack = top :: rest →
    MenuBase.depth top.menu < MenuBase.depth item
  window : InWindow d.menu.items.length d.menu.scrollIndex d.menu.selectedIndex

variable {b : Board} {d : Device}

/-! ### Moving the selection -/

section Selection
variable {count scroll selected : Nat}

theorem InWindow.start : InWindow count 0 0 := by
  constructor
  · intro _
    exact ⟨rfl, rfl⟩
  · intro positive
    omega
  · exact Nat.le_refl 0
  · decide
  · exact Or.inl rfl

theorem InWindow.up (window : InWindow count scroll selected) (above : selected ≠ 0) :
    InWindow count (if selected - 1 < scroll then selected - 1 else scroll) (selected - 1) := by
  obtain ⟨empty, selected_lt, scroll_le, on_screen, full⟩ := window
  have listed : count ≠ 0 := fun nothing => above (empty nothing).2
  have inside := selected_lt listed
  have rows : displayRows = 3 := rfl
  by_cases scrolled : selected - 1 < scroll
  · rw [if_pos scrolled]
    constructor
    all_goals omega
  · rw [if_neg scrolled]
    constructor
    all_goals omega

theorem InWindow.down (window : InWindow count scroll selected) (more : selected + 1 < count) :
    InWindow count (if selected + 1 ≥ scroll + displayRows then scroll + 1 else scroll)
      (selected + 1) := by
  obtain ⟨-, -, scroll_le, on_screen, full⟩ := window
  have rows : displayRows = 3 := rfl
  by_cases below : selected + 1 ≥ scroll + displayRows
  · rw [if_pos below]
    constructor
    all_goals omega
  · rw [if_neg below]
    constructor
    all_goals omega

/-- Every row that `menu_draw` fills shows an item. -/
theorem InWindow.row (window : InWindow count scroll selected) {row : Nat}
    (visible : row < displayRows) (filled : row < count) : scroll + row < count := by
  obtain ⟨-, -, -, -, full⟩ := window
  cases full with
  | inl top => rwa [top, Nat.zero_add]
  | inr full => omega

end Selection

/-! ### The stack -/

theorem length_menuItems (b : Board) (d : Device) (menu : MenuBase) :
    (menuItems b d menu).length = itemCount b menu := by
  cases menu with
  | radio parent => simp only [menuItems, itemCount, List.length_map, List.length_range]
  | _ => rfl

theorem depth_menuItems {menu item : MenuBase} (member : item ∈ menuItems b d menu) :
    MenuBase.depth menu < MenuBase.depth item := by
  cases menu with
  | radio parent =>
      obtain ⟨index, -, rfl⟩ := List.mem_map.mp member
      cases parent with
      | socd x => exact Nat.lt_succ_self 3
      | outputMode | profile => exact Nat.lt_add_of_pos_right (k := 2) Nat.zero_lt_two
  | root =>
      simp only [menuItems, List.mem_cons, List.not_mem_nil, or_false] at member
      rcases member with rfl | rfl | rfl | rfl
      · split <;> decide
      all_goals decide
  | settings =>
      simp only [menuItems, List.mem_cons, List.not_mem_nil, or_false] at member
      rcases member with rfl | rfl | rfl
      · decide
      · split <;> decide
      · decide
  | output | socd | usbDelay | about | version =>
      simp only [menuItems, List.mem_cons, List.not_mem_nil, or_false] at member
      rcases member with rfl | rfl | rfl <;> decide
  | _ => exact absurd member List.not_mem_nil

theorem depth_le_of_enter {b : Board} {d : Device} {item : MenuBase}
    (isMenu : (onEnter b d item).1 = true) : MenuBase.depth item ≤ 3 := by
  cases item with
  | radio parent =>
      cases parent with
      | socd x => exact Nat.le_refl 3
      | outputMode | profile => exact Nat.le_succ 2
  | root | output | settings | about | socd | usbDelay | version => decide
  | _ => cases isMenu

theorem Stacked.pop {loc : MenuLocation} {stack : List MenuLocation}
    (stacked : Stacked b (loc :: stack)) :
    Stacked b stack ∧ InWindow (shownCount b stack) loc.scrollIndex loc.selectedIndex := by
  cases stacked with
  | root _ scroll selected =>
      rw [scroll, selected]
      exact ⟨.empty, .start⟩
  | enter below _ _ window => exact ⟨below, window⟩

/-- Menus get deeper from the bottom of the stack on, so four of its eight places are used. -/
theorem Stacked.length_le {stack : List MenuLocation} (stacked : Stacked b stack) :
    stack.length ≤ 4 := by
  have below : ∀ top rest, stack = top :: rest →
      stack.length ≤ MenuBase.depth top.menu + 1 ∧ MenuBase.depth top.menu ≤ 3 := by
    induction stacked with
    | empty =>
        intro top rest same
        cases same
    | root atRoot _ _ =>
        intro top rest same
        cases same
        rw [atRoot]
        exact ⟨Nat.le_refl 1, Nat.zero_le 3⟩
    | enter below deeper bound window ih =>
        intro top rest same
        cases same
        have shorter := (ih _ _ rfl).1
        simp only [List.length_cons] at shorter ⊢
        exact ⟨by omega, bound⟩
  cases stack with
  | nil => exact Nat.zero_le 4
  | cons top rest =>
      obtain ⟨shorter, bound⟩ := below top rest rfl
      omega

/-! ### The calls -/

/-- Fetching the items of the menu on top makes everything fit again. -/
theorem windowed_fetch (stacked : Stacked b d.menu.stack)
    (window : InWindow (shownCount b d.menu.stack) d.menu.scrollIndex d.menu.selectedIndex) :
    Windowed b (menuFetchItems b d) := by
  have count : (menuFetchItems b d).menu.items.length = shownCount b d.menu.stack := by
    unfold menuFetchItems
    cases d.menu.stack with
    | nil => rfl
    | cons top rest => exact length_menuItems b d top.menu
  constructor
  · exact stacked
  · exact count
  · intro item member top rest same
    change d.menu.stack = top :: rest at same
    unfold menuFetchItems at member
    rw [same] at member
    exact depth_menuItems member
  · rw [count]
    exact window

/-- An action changes no more of the menu than whether its place is kept. -/
theorem onEnter_menu (b : Board) (d : Device) (item : MenuBase) :
    ∃ keepMenuSpot, (onEnter b d item).2.menu = { d.menu with keepMenuSpot } := by
  cases item with
  | radioItem parent index =>
      cases parent with
      | socd x => cases x <;> exact ⟨d.menu.keepMenuSpot, rfl⟩
      | outputMode | profile => exact ⟨d.menu.keepMenuSpot, rfl⟩
  | remember => exact ⟨false, rfl⟩
  | forget => exact ⟨true, rfl⟩
  | _ => exact ⟨d.menu.keepMenuSpot, rfl⟩

theorem onEnter_of_menu {b : Board} {d : Device} {item : MenuBase}
    (isMenu : (onEnter b d item).1 = true) : (onEnter b d item).2 = d := by
  cases item with
  | root | output | settings | about | radio | socd | usbDelay | version => rfl
  | _ => cases isMenu

theorem windowed_enter {item : MenuBase} (windowed : Windowed b d)
    (entered : Stacked b (⟨item, d.menu.scrollIndex, d.menu.selectedIndex⟩ :: d.menu.stack)) :
    Windowed b (menuEnter b d item) ∧ (menuEnter b d item).halted = d.halted := by
  have low := windowed.stacked.length_le
  have room : d.menu.stack.length ≠ menuStackCapacity := by
    unfold menuStackCapacity
    omega
  unfold menuEnter
  rw [if_neg room]
  constructor
  · have fetched := windowed_fetch (d := { d with menu := { d.menu with
      stack := ⟨item, d.menu.scrollIndex, d.menu.selectedIndex⟩ :: d.menu.stack
      scrollIndex := 0
      selectedIndex := 0 } }) entered .start
    exact ⟨entered, fetched.count, fetched.deeper, fetched.window⟩
  · rfl

theorem windowed_push {item : MenuBase} (windowed : Windowed b d)
    (entered : (onEnter b d item).1 = true →
      Stacked b (⟨item, d.menu.scrollIndex, d.menu.selectedIndex⟩ :: d.menu.stack)) :
    Windowed b (menuPush b d item) := by
  unfold menuPush
  cases isMenu : (onEnter b d item).1 with
  | true =>
      have same := onEnter_of_menu isMenu
      simp only [isMenu, same, if_true]
      exact (windowed_enter windowed (entered isMenu)).1
  | false =>
      obtain ⟨keepMenuSpot, same⟩ := onEnter_menu b d item
      simp only [isMenu, Bool.false_eq_true, if_false]
      apply windowed_fetch
      · rw [same]
        exact windowed.stacked
      · rw [same]
        change InWindow (shownCount b d.menu.stack) d.menu.scrollIndex d.menu.selectedIndex
        rw [← windowed.count]
        exact windowed.window

theorem windowed_pop (windowed : Windowed b d) : Windowed b (menuPop b d) := by
  unfold menuPop
  split
  · exact windowed
  · rename_i top stack same
    have popped : Stacked b stack ∧ _ := Stacked.pop (same ▸ windowed.stacked)
    exact windowed_fetch popped.1 popped.2

theorem stack_pop (b : Board) (d : Device) : (menuPop b d).menu.stack = d.menu.stack.tail := by
  unfold menuPop
  split
  · rename_i same
    rw [same]
    rfl
  · rename_i top stack same
    rw [same]
    rfl

theorem stack_popAll (b : Board) (d : Device) : (menuPopAll b d).menu.stack = [] := by
  have popped (n : Nat) (d : Device) :
      ((fun d => menuPop b d)^[n] d).menu.stack = d.menu.stack.drop n := by
    induction n generalizing d with
    | zero => rfl
    | succ n ih => rw [Function.iterate_succ_apply, ih, stack_pop, List.drop_tail]
  unfold menuPopAll
  rw [popped, List.drop_length]

theorem windowed_popAll (windowed : Windowed b d) : Windowed b (menuPopAll b d) :=
  menuPopAll_keeps (P := Windowed b) windowed fun _ => windowed_pop

/-- Nothing is selected in a menu without a location. -/
theorem Windowed.at_rest (windowed : Windowed b d) (closed : d.menu.stack = []) :
    d.menu.items = [] ∧ d.menu.scrollIndex = 0 ∧ d.menu.selectedIndex = 0 := by
  have count := windowed.count
  rw [closed] at count
  exact ⟨List.length_eq_zero_iff.mp count, windowed.window.empty count⟩

theorem windowed_root (windowed : Windowed b d) (closed : d.menu.stack = []) :
    Windowed b (menuPush b d .root) := by
  obtain ⟨-, scroll, selected⟩ := windowed.at_rest closed
  apply windowed_push windowed
  intro _
  rw [closed]
  exact .root rfl scroll selected

theorem windowed_open (windowed : Windowed b d) : Windowed b (menuOpen b d) := by
  unfold menuOpen
  split
  · exact ⟨windowed.stacked, windowed.count, windowed.deeper, windowed.window⟩
  · have pushed := windowed_root (windowed_popAll windowed) (stack_popAll b d)
    exact ⟨pushed.stacked, pushed.count, pushed.deeper, pushed.window⟩

theorem windowed_close (windowed : Windowed b d) : Windowed b (menuClose b d) := by
  unfold menuClose
  split
  · exact ⟨windowed.stacked, windowed.count, windowed.deeper, windowed.window⟩
  · have emptied := windowed_popAll windowed
    exact ⟨emptied.stacked, emptied.count, emptied.deeper, emptied.window⟩

/-- The item under the cursor may be entered: it is below the menu it is shown in. -/
theorem Windowed.enter (windowed : Windowed b d) {item : MenuBase}
    (chosen : d.menu.items[d.menu.selectedIndex]? = some item)
    (isMenu : (onEnter b d item).1 = true) :
    Stacked b (⟨item, d.menu.scrollIndex, d.menu.selectedIndex⟩ :: d.menu.stack) := by
  have member : item ∈ d.menu.items := List.mem_of_getElem? chosen
  cases shape : d.menu.stack with
  | nil =>
      rw [(windowed.at_rest shape).1] at member
      exact absurd member List.not_mem_nil
  | cons top rest =>
      apply Stacked.enter
      · rw [← shape]
        exact windowed.stacked
      · exact windowed.deeper item member top rest shape
      · exact depth_le_of_enter isMenu
      · have window := windowed.window
        rw [windowed.count, shape] at window
        exact window

theorem windowed_input (windowed : Windowed b d) (input : MenuInput) :
    Windowed b (menuInput b d input) := by
  cases input with
  | up =>
      simp only [menuInput]
      split
      · rename_i above
        exact ⟨windowed.stacked, windowed.count, windowed.deeper, windowed.window.up above⟩
      · exact windowed
  | down =>
      simp only [menuInput]
      split
      · rename_i more
        exact ⟨windowed.stacked, windowed.count, windowed.deeper, windowed.window.down more⟩
      · exact windowed
  | left =>
      simp only [menuInput]
      split
      · exact windowed_pop windowed
      · exact windowed
  | right =>
      simp only [menuInput]
      split
      · rename_i item chosen
        exact windowed_push windowed (windowed.enter chosen)
      · exact ⟨windowed.stacked, windowed.count, windowed.deeper, windowed.window⟩

theorem windowed_call (windowed : Windowed b d) (call : MenuCall) :
    Windowed b (menuCall b d call) := by
  cases call with
  | openMenu => exact windowed_open windowed
  | closeMenu => exact windowed_close windowed
  | input input => exact windowed_input windowed input

theorem windowed_init (b : Board) (d : Device) : Windowed b (menuInit b d) := by
  apply windowed_root _ rfl
  constructor
  · exact .empty
  · rfl
  · intro item member
    exact absurd member List.not_mem_nil
  · exact .start

end PassingLink.Display
