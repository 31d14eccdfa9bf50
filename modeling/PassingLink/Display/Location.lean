import PassingLink.Display.Calls

/-! The way back through the menus: what is selected after a menu has been left again, and
after the whole menu has been closed and opened again. -/
namespace PassingLink.Display
open Input Lib

/-- A call into the menu, or a change to everything else, which ends with the state `rest` there. -/
inductive MenuEvent where
  | call (call : MenuCall)
  | elsewhere (rest : Device)

def menuEventStep (b : Board) (d : Device) : MenuEvent → Device
  | .call call => menuStep b d call
  | .elsewhere rest => { rest with menu := d.menu, halted := d.halted }

/-- The place in the menu: the stack, with the locations it has saved, and the cursor. -/
structure SamePlace (d d' : Device) : Prop where
  stack : d'.menu.stack = d.menu.stack
  scrollIndex : d'.menu.scrollIndex = d.menu.scrollIndex
  selectedIndex : d'.menu.selectedIndex = d.menu.selectedIndex

/-- The main menu with nothing scrolled and its first item selected. -/
structure AtRoot (d : Device) : Prop where
  stack : d.menu.stack = [⟨.root, 0, 0⟩]
  scrollIndex : d.menu.scrollIndex = 0
  selectedIndex : d.menu.selectedIndex = 0

variable {b : Board} {d : Device}

/-! ### The invariant -/

theorem windowed_elsewhere (windowed : Windowed b d) (rest : Device) :
    Windowed b (menuEventStep b d (.elsewhere rest)) :=
  ⟨windowed.stacked, windowed.count, windowed.deeper, windowed.window⟩

theorem windowed_event (d : Device) (e : MenuEvent) (windowed : Windowed b d) :
    Windowed b (menuEventStep b d e) := by
  cases e with
  | call call => exact windowed_step call windowed
  | elsewhere rest => exact windowed_elsewhere windowed rest

theorem reached_windowed (b : Board) (d₀ : Device) (es : List MenuEvent) :
    Windowed b (run (menuEventStep b) (menuInit b d₀) es) :=
  run_invariant windowed_event (windowed_init b d₀) es

/-! ### What a step does to the stack -/

/-- The stack is left alone, grows by one, loses its top, or is reset. -/
inductive StackMove (stack : List MenuLocation) : List MenuLocation → Prop
  | same : StackMove stack stack
  | push (loc : MenuLocation) : StackMove stack (loc :: stack)
  | pop : StackMove stack stack.tail
  | reset {stack' : List MenuLocation} : stack'.length ≤ 1 → StackMove stack stack'

/-- What lies under the top is out of reach while the stack stays higher. -/
theorem StackMove.suffix {stack stack' base : List MenuLocation} (move : StackMove stack stack')
    (below : base <:+ stack) (deep : 1 < base.length) (high : base.length ≤ stack'.length) :
    base <:+ stack' := by
  cases move with
  | same => exact below
  | push loc => exact below.trans (List.suffix_cons loc stack)
  | reset short => omega
  | pop =>
      obtain ⟨upper, rfl⟩ := below
      cases upper with
      | nil =>
          rw [List.nil_append, List.length_tail] at high
          omega
      | cons loc upper => exact List.suffix_append upper base

theorem menuEnter_move (b : Board) (d : Device) (item : MenuBase) :
    StackMove d.menu.stack (menuEnter b d item).menu.stack := by
  unfold menuEnter
  split
  · exact .same
  · exact .push _

theorem menuPush_move (b : Board) (d : Device) (item : MenuBase) :
    StackMove d.menu.stack (menuPush b d item).menu.stack := by
  obtain ⟨keepMenuSpot, same⟩ := onEnter_menu b d item
  cases isMenu : (onEnter b d item).1 with
  | true =>
      have unchanged := onEnter_of_menu isMenu
      simp only [menuPush, isMenu, unchanged, if_true]
      exact menuEnter_move b d item
  | false =>
      simp only [menuPush, isMenu, Bool.false_eq_true, if_false, menuFetchItems]
      rw [same]
      exact .same

theorem menuOpen_move (b : Board) (d : Device) :
    StackMove d.menu.stack (menuOpen b d).menu.stack := by
  unfold menuOpen
  cases d.menu.keepMenuSpot with
  | true => exact .same
  | false =>
      apply StackMove.reset
      have pushed := menuPush_move b (menuPopAll b d) .root
      rw [stack_popAll] at pushed
      simp only [Bool.false_eq_true, if_false]
      generalize (menuPush b (menuPopAll b d) .root).menu.stack = stack at pushed
      cases pushed with
      | same => exact Nat.zero_le 1
      | push loc => exact Nat.le_refl 1
      | pop => exact Nat.zero_le 1
      | reset short => exact short

theorem menuClose_move (b : Board) (d : Device) :
    StackMove d.menu.stack (menuClose b d).menu.stack := by
  unfold menuClose
  cases d.menu.keepMenuSpot with
  | true => exact .same
  | false =>
      apply StackMove.reset
      simp only [Bool.false_eq_true, if_false, stack_popAll]
      exact Nat.zero_le 1

theorem menuInput_move (b : Board) (d : Device) (input : MenuInput) :
    StackMove d.menu.stack (menuInput b d input).menu.stack := by
  unfold menuInput
  cases input with
  | up | down =>
      dsimp only
      split
      · exact .same
      · exact .same
  | left =>
      dsimp only
      split
      · rw [stack_pop]
        exact .pop
      · exact .same
  | right =>
      dsimp only
      split
      · exact menuPush_move b d _
      · exact .same

theorem event_move (b : Board) (d : Device) (e : MenuEvent) :
    StackMove d.menu.stack (menuEventStep b d e).menu.stack := by
  cases e with
  | elsewhere rest => exact .same
  | call call =>
      simp only [menuEventStep, menuStep]
      split
      · exact .same
      · cases call with
        | openMenu => exact menuOpen_move b d
        | closeMenu => exact menuClose_move b d
        | input input => exact menuInput_move b d input

theorem run_suffix {base : List MenuLocation} (deep : 1 < base.length)
    (below : base <:+ d.menu.stack) {es : List MenuEvent}
    (high : ∀ before, before <+: es →
      base.length ≤ (run (menuEventStep b) d before).menu.stack.length) :
    base <:+ (run (menuEventStep b) d es).menu.stack := by
  induction es generalizing d with
  | nil => exact below
  | cons e es ih =>
      have first := high [e] (List.prefix_cons_inj e |>.mpr List.nil_prefix)
      apply ih ((event_move b d e).suffix below deep first)
      intro before inside
      exact high (e :: before) ((List.prefix_cons_inj e).mpr inside)

/-! ### Into a menu and out of it -/

/-- Right on a menu puts it on the stack, with the place it was chosen at. -/
theorem right_enters (windowed : Windowed b d) (running : d.halted = false) {item : MenuBase}
    (chosen : d.menu.items[d.menu.selectedIndex]? = some item)
    (isMenu : (onEnter b d item).1 = true) :
    (menuEventStep b d (.call (.input .right))).menu.stack =
      ⟨item, d.menu.scrollIndex, d.menu.selectedIndex⟩ :: d.menu.stack := by
  have unchanged := onEnter_of_menu isMenu
  simp only [menuEventStep, menuStep, running, Bool.false_eq_true, if_false, menuCall, menuInput,
    chosen, menuPush, isMenu, unchanged, if_true, menuEnter, if_neg windowed.room]
  rfl

/-- A Left that lowers the stack restores what its top has saved. -/
theorem left_returns {loc : MenuLocation} {rest : List MenuLocation}
    (below : loc :: rest <:+ d.menu.stack)
    (back : (menuEventStep b d (.call (.input .left))).menu.stack.length = rest.length) :
    (menuEventStep b d (.call (.input .left))).menu.stack = rest ∧
      (menuEventStep b d (.call (.input .left))).menu.scrollIndex = loc.scrollIndex ∧
      (menuEventStep b d (.call (.input .left))).menu.selectedIndex = loc.selectedIndex := by
  have high := below.length_le
  rw [List.length_cons] at high
  simp only [menuEventStep, menuStep] at back ⊢
  by_cases halted : d.halted = true
  · rw [if_pos halted] at back
    omega
  · rw [if_neg halted] at back ⊢
    simp only [menuCall, menuInput] at back ⊢
    by_cases single : d.menu.stack.length ≠ 1
    · rw [if_pos single] at back ⊢
      rw [stack_pop, List.length_tail] at back
      have whole : loc :: rest = d.menu.stack := by
        apply below.eq_of_length
        rw [List.length_cons]
        omega
      rw [stack_pop, ← whole, menuPop, ← whole]
      exact ⟨rfl, rfl, rfl⟩
    · rw [if_neg single] at back
      omega

theorem enter_and_return (windowed : Windowed b d) {item : MenuBase}
    (chosen : d.menu.items[d.menu.selectedIndex]? = some item)
    (isMenu : (onEnter b d item).1 = true) (inside : List MenuEvent)
    (above : ∀ before, before <+: inside → d.menu.stack.length <
      (run (menuEventStep b) d (.call (.input .right) :: before)).menu.stack.length)
    (back : (run (menuEventStep b) d
        (.call (.input .right) :: inside ++ [.call (.input .left)])).menu.stack.length =
      d.menu.stack.length) :
    SamePlace d (run (menuEventStep b) d
      (.call (.input .right) :: inside ++ [.call (.input .left)])) := by
  have running : d.halted = false := by
    cases halted : d.halted with
    | false => rfl
    | true =>
        have stays : menuEventStep b d (.call (.input .right)) = d := if_pos halted
        have higher := above [] List.nil_prefix
        rw [run_cons, run_nil, stays] at higher
        omega
  have entered := right_enters windowed running chosen isMenu
  have occupied : d.menu.stack ≠ [] :=
    windowed.right_iff.mp (List.getElem?_eq_some_iff.mp chosen).1
  have below : ⟨item, d.menu.scrollIndex, d.menu.selectedIndex⟩ :: d.menu.stack <:+
      (run (menuEventStep b) (menuEventStep b d (.call (.input .right))) inside).menu.stack := by
    apply run_suffix
    · rw [List.length_cons]
      have level := List.length_pos_of_ne_nil occupied
      omega
    · rw [entered]
    · intro before begins
      exact above before begins
  rw [List.cons_append, run_cons, run_append, run_cons, run_nil] at back ⊢
  obtain ⟨stack, scroll, selected⟩ := left_returns below back
  exact ⟨stack, scroll, selected⟩

/-! ### Closing and opening again -/

theorem run_elsewhere (d : Device) (away : List Device) :
    (run (menuEventStep b) d (away.map .elsewhere)).menu = d.menu ∧
      (run (menuEventStep b) d (away.map .elsewhere)).halted = d.halted := by
  induction away generalizing d with
  | nil => exact ⟨rfl, rfl⟩
  | cons rest away ih => exact ih (menuEventStep b d (.elsewhere rest))

theorem menuPush_root (windowed : Windowed b d) (closed : d.menu.stack = []) :
    AtRoot (menuPush b d .root) := by
  obtain ⟨-, scroll, selected⟩ := windowed.at_rest closed
  have room : d.menu.stack.length ≠ menuStackCapacity := windowed.room
  have entered : menuPush b d .root = menuEnter b d .root := rfl
  rw [entered, menuEnter, if_neg room, closed, scroll, selected]
  exact ⟨rfl, rfl, rfl⟩

/-- Opening a menu that keeps no place leads to the main menu, whatever has been before. -/
theorem menuOpen_root (windowed : Windowed b d) (forgets : d.menu.keepMenuSpot = false) :
    AtRoot (menuOpen b d) := by
  have root := menuPush_root (windowed_popAll windowed) (stack_popAll b d)
  unfold menuOpen
  rw [forgets]
  exact ⟨root.stack, root.scrollIndex, root.selectedIndex⟩

theorem menuClose_halted (b : Board) (d : Device) : (menuClose b d).halted = d.halted := by
  unfold menuClose
  split
  · rfl
  · refine menuPopAll_keeps (P := fun d' => d'.halted = d.halted) rfl ?_
    intro d' before
    unfold menuPop
    split
    · exact before
    · exact before

section Reopening
variable (away : List Device)

/-- The menu is closed, other things happen, and it is opened again. -/
def reopened (b : Board) (d : Device) : Device :=
  run (menuEventStep b) d (.call .closeMenu :: away.map .elsewhere ++ [.call .openMenu])

theorem reopened_eq (running : d.halted = false) :
    ∃ closed : Device, closed.menu = (menuClose b d).menu ∧
      reopened away b d = menuOpen b closed := by
  have close : menuEventStep b d (.call .closeMenu) = menuClose b d := by
    simp only [menuEventStep, menuStep, running, Bool.false_eq_true, if_false]
    rfl
  obtain ⟨menu, halted⟩ := @run_elsewhere b (menuClose b d) away
  refine ⟨run (menuEventStep b) (menuClose b d) (away.map .elsewhere), menu, ?_⟩
  rw [menuClose_halted, running] at halted
  rw [reopened, List.cons_append, run_cons, run_append, run_cons, run_nil, close]
  simp only [menuEventStep, menuStep, halted, Bool.false_eq_true, if_false]
  rfl

theorem reopened_place (running : d.halted = false) (keeps : d.menu.keepMenuSpot = true) :
    SamePlace d (reopened away b d) := by
  obtain ⟨closed, menu, reached⟩ := @reopened_eq b d away running
  have close : (menuClose b d).menu = { d.menu with menuOpened := false } := by
    simp only [menuClose, keeps, if_true]
  have kept : closed.menu.keepMenuSpot = true := by
    rw [menu, close]
    exact keeps
  rw [reached, menuOpen, if_pos kept]
  dsimp only
  rw [menu, close]
  exact ⟨rfl, rfl, rfl⟩

theorem reopened_root (windowed : Windowed b d) (running : d.halted = false)
    (forgets : d.menu.keepMenuSpot = false) : AtRoot (reopened away b d) := by
  obtain ⟨closed, menu, reached⟩ := @reopened_eq b d away running
  have after := windowed_close windowed
  have closed_windowed : Windowed b closed := by
    obtain ⟨stacked, count, deeper, window⟩ := after
    rw [← menu] at stacked count deeper window
    exact ⟨stacked, count, deeper, window⟩
  rw [reached]
  apply menuOpen_root closed_windowed
  rw [menu, keep_close]
  exact forgets

end Reopening

/-- After any history of calls and of changes elsewhere: Right into a menu, anything that
stays above it, and the Left that comes back restore the place; closing and opening keeps the
place exactly if it is to be kept, and otherwise leads to the main menu. -/
theorem menu_location_restored (b : Board) (d₀ : Device) (es : List MenuEvent) {d : Device}
    (reached : run (menuEventStep b) (menuInit b d₀) es = d) :
    (∀ item, d.menu.items[d.menu.selectedIndex]? = some item → (onEnter b d item).1 = true →
      ∀ inside : List MenuEvent,
        (∀ before, before <+: inside → d.menu.stack.length <
          (run (menuEventStep b) d (.call (.input .right) :: before)).menu.stack.length) →
        (run (menuEventStep b) d
            (.call (.input .right) :: inside ++ [.call (.input .left)])).menu.stack.length =
          d.menu.stack.length →
        SamePlace d (run (menuEventStep b) d
          (.call (.input .right) :: inside ++ [.call (.input .left)]))) ∧
    (d.halted = false → ∀ away : List Device,
      (d.menu.keepMenuSpot = true → SamePlace d (reopened away b d)) ∧
        (d.menu.keepMenuSpot = false → AtRoot (reopened away b d))) := by
  have windowed : Windowed b d := reached ▸ reached_windowed b d₀ es
  constructor
  · intro item chosen isMenu inside above back
    exact enter_and_return windowed chosen isMenu inside above back
  · intro running away
    exact ⟨reopened_place away running, reopened_root away windowed running⟩

/-- The main menu with its second item selected, which is the output menu. -/
def outputSelected : Device :=
  run (menuEventStep microdash) (menuInit microdash (Device.boot microdash)) [.call (.input .down)]

/-- To the last item of the output menu, into it and back. -/
def throughOutput : List MenuEvent :=
  [.call (.input .down), .call (.input .down), .call (.input .right), .call (.input .left)]

theorem output_menu_left_again :
    SamePlace outputSelected (run (menuEventStep microdash) outputSelected
      (.call (.input .right) :: throughOutput ++ [.call (.input .left)])) := by
  have above : ∀ before, before <+: throughOutput → outputSelected.menu.stack.length <
      (run (menuEventStep microdash) outputSelected
        (.call (.input .right) :: before)).menu.stack.length := by
    intro before begins
    have short : before.length ≤ 4 := begins.length_le
    rw [List.prefix_iff_eq_take.mp begins]
    generalize before.length = n at short
    match n with
    | 0 | 1 | 2 | 3 | 4 => decide
    | n + 5 => omega
  have reached : run (menuEventStep microdash) (menuInit microdash (Device.boot microdash))
      [.call (.input .down)] = outputSelected := rfl
  have restored := (menu_location_restored microdash (Device.boot microdash) _ reached).1
  exact restored .output (by decide) (by decide) throughOutput above (by decide)

end PassingLink.Display
