import PassingLink.Display.Window
import PassingLink.Input.Machine

/-! Sequences of calls into the menu, in any order: where the reads of the list of items and
the checks of the stack stay in range. -/
namespace PassingLink.Display
open Input Lib

/-- One call after another, until one of them halts the program. -/
def menuStep (b : Board) (d : Device) (call : MenuCall) : Device :=
  if d.halted then d else menuCall b d call

/-! ### The reads of `menu_items` -/

def RightInRange (d : Device) (call : MenuCall) : Prop :=
  call = .input .right → d.halted = false → d.menu.selectedIndex < d.menu.items.length

/-- The calls so far together with whether the last `menu_close` that emptied the stack was
not followed by a `menu_open`. -/
structure Visit where
  device : Device
  away : Bool

def Visit.step (b : Board) (v : Visit) (call : MenuCall) : Visit where
  device := menuStep b v.device call
  away :=
    match call with
    | .closeMenu => v.away || !v.device.menu.keepMenuSpot
    | .openMenu => false
    | .input _ => v.away

def Visit.RightAtHome (v : Visit) (call : MenuCall) : Prop :=
  call = .input .right → v.device.halted = false → v.away = false

/-- A running menu is away exactly when its stack is empty, and then keeps no place. -/
structure Visit.Consistent (b : Board) (v : Visit) : Prop where
  windowed : Windowed b v.device
  away_iff : v.device.halted = false → (v.away = true ↔ v.device.menu.stack = [])
  away_forgets : v.device.halted = false → v.away = true → v.device.menu.keepMenuSpot = false

variable {b : Board} {d : Device}

theorem keep_popAll (b : Board) (d : Device) :
    (menuPopAll b d).menu.keepMenuSpot = d.menu.keepMenuSpot := by
  refine menuPopAll_keeps (P := fun d' => d'.menu.keepMenuSpot = d.menu.keepMenuSpot) rfl ?_
  intro d' before
  unfold menuPop
  split
  · exact before
  · exact before

/-- A push never leaves the stack empty that was not, and the main menu never at all. -/
theorem stack_push {item : MenuBase} (occupied : item = .root ∨ d.menu.stack ≠ []) :
    (menuPush b d item).menu.stack ≠ [] := by
  obtain ⟨keepMenuSpot, same⟩ := onEnter_menu b d item
  cases isMenu : (onEnter b d item).1 with
  | true =>
      have unchanged := onEnter_of_menu isMenu
      simp only [menuPush, isMenu, unchanged, if_true, menuEnter]
      split
      · rename_i full
        intro closed
        change d.menu.stack = [] at closed
        rw [closed] at full
        cases full
      · intro same
        cases same
  | false =>
      simp only [menuPush, isMenu, Bool.false_eq_true, if_false, menuFetchItems]
      rw [same]
      cases occupied with
      | inl root =>
          rw [root] at isMenu
          cases isMenu
      | inr occupied => exact occupied

theorem itemCount_pos {menu : MenuBase} (bound : MenuBase.depth menu ≤ 3) :
    itemCount b menu ≠ 0 := by
  cases menu with
  | radio parent =>
      cases parent with
      | socd | outputMode => exact Nat.succ_ne_zero _
      | profile =>
          simp only [itemCount, getOptionCount, profiles]
          split
          · exact Nat.succ_ne_zero 2
          · exact Nat.succ_ne_zero 0
  | root | output | settings | about | socd | usbDelay | version => exact Nat.succ_ne_zero _
  | _ => exact absurd bound (Nat.not_succ_le_self 3)

theorem Stacked.shown {stack : List MenuLocation} (stacked : Stacked b stack)
    (occupied : stack ≠ []) : shownCount b stack ≠ 0 := by
  cases stacked with
  | empty => exact absurd rfl occupied
  | root atRoot _ _ =>
      apply itemCount_pos
      rw [atRoot]
      exact Nat.zero_le 3
  | enter _ _ bound _ => exact itemCount_pos bound

theorem Windowed.right_iff (windowed : Windowed b d) :
    d.menu.selectedIndex < d.menu.items.length ↔ d.menu.stack ≠ [] := by
  constructor
  · intro inside closed
    rw [(windowed.at_rest closed).1] at inside
    exact Nat.not_lt_zero _ inside
  · intro occupied
    apply windowed.window.selected_lt
    rw [windowed.count]
    exact windowed.stacked.shown occupied

/-- Where the stack is left empty or not, by each call on a running menu. -/
theorem stack_call {call : MenuCall} (windowed : Windowed b d)
    (forgets : d.menu.stack = [] → d.menu.keepMenuSpot = false)
    (running : (menuCall b d call).halted = false) :
    (menuCall b d call).menu.stack = [] ↔
      call = .closeMenu ∧ d.menu.keepMenuSpot = false ∨ call ≠ .openMenu ∧ d.menu.stack = [] := by
  cases call with
  | openMenu =>
      simp only [menuCall, menuOpen, reduceCtorEq, false_and, ne_eq, not_true_eq_false, or_false,
        iff_false]
      cases keep : d.menu.keepMenuSpot with
      | true =>
          intro closed
          rw [forgets closed] at keep
          cases keep
      | false => exact stack_push (.inl rfl)
  | closeMenu =>
      simp only [menuCall, menuClose, true_and, ne_eq, reduceCtorEq, not_false_eq_true]
      cases keep : d.menu.keepMenuSpot with
      | true => simp only [if_true, Bool.true_eq_false, false_or]
      | false => simp only [Bool.false_eq_true, if_false, stack_popAll, true_or]
  | input input =>
      simp only [reduceCtorEq, false_and, ne_eq, not_false_eq_true, true_and, false_or]
      cases input with
      | up =>
          simp only [menuCall, menuInput]
          split
          · exact Iff.rfl
          · exact Iff.rfl
      | down =>
          simp only [menuCall, menuInput]
          split
          · exact Iff.rfl
          · exact Iff.rfl
      | left =>
          simp only [menuCall, menuInput]
          split
          · rename_i other
            rw [stack_pop]
            cases shape : d.menu.stack with
            | nil => exact Iff.rfl
            | cons top rest =>
                cases rest with
                | nil =>
                    rw [shape] at other
                    exact absurd rfl other
                | cons below rest => simp only [List.tail_cons, reduceCtorEq]
          · exact Iff.rfl
      | right =>
          cases chosen : d.menu.items[d.menu.selectedIndex]? with
          | none =>
              simp only [menuCall, menuInput, chosen, Bool.true_eq_false] at running
          | some item =>
              have inside := (List.getElem?_eq_some_iff.mp chosen).1
              have occupied := windowed.right_iff.mp inside
              simp only [menuCall, menuInput, chosen]
              exact iff_of_false (stack_push (.inr occupied)) occupied

theorem keep_close (b : Board) (d : Device) :
    (menuClose b d).menu.keepMenuSpot = d.menu.keepMenuSpot := by
  unfold menuClose
  split
  · rfl
  · exact keep_popAll b d

theorem keep_call {call : MenuCall} (windowed : Windowed b d) (closed : d.menu.stack = [])
    (running : (menuCall b d call).halted = false) (other : call ≠ .openMenu) :
    (menuCall b d call).menu.keepMenuSpot = d.menu.keepMenuSpot := by
  obtain ⟨items, -, selected⟩ := windowed.at_rest closed
  cases call with
  | openMenu => exact absurd rfl other
  | closeMenu => exact keep_close b d
  | input input =>
      cases input with
      | up => simp only [menuCall, menuInput, selected, ne_eq, not_true_eq_false, if_false]
      | down =>
          simp only [menuCall, menuInput, items, List.length_nil, Nat.not_lt_zero, if_false]
      | left =>
          simp only [menuCall, menuInput, menuPop, closed]
          split
          · rfl
          · rfl
      | right =>
          simp only [menuCall, menuInput, items, List.getElem?_nil, Bool.true_eq_false] at running

theorem Visit.consistent_step (v : Visit) (call : MenuCall) (consistent : v.Consistent b) :
    (v.step b call).Consistent b := by
  obtain ⟨windowed, away_iff, away_forgets⟩ := consistent
  cases halted : v.device.halted with
  | true =>
      have same : (v.step b call).device = v.device := if_pos halted
      constructor
      · rw [same]
        exact windowed
      · intro running
        rw [same, halted] at running
        cases running
      · intro running
        rw [same, halted] at running
        cases running
  | false =>
      have same : (v.step b call).device = menuCall b v.device call :=
        if_neg (by rw [halted]; exact Bool.false_ne_true)
      have empties := away_iff halted
      have forgets (closed : v.device.menu.stack = []) := away_forgets halted (empties.mpr closed)
      constructor
      · rw [same]
        exact windowed_call windowed call
      · intro running
        rw [same] at running ⊢
        rw [stack_call windowed forgets running, ← empties]
        cases call with
        | openMenu => simp only [Visit.step, Bool.false_eq_true, reduceCtorEq, false_and,
            ne_eq, not_true_eq_false, or_false]
        | closeMenu =>
            simp only [Visit.step, Bool.or_eq_true, Bool.not_eq_true', ne_eq, reduceCtorEq,
              not_false_eq_true, true_and, or_comm]
        | input input => simp only [Visit.step, reduceCtorEq, false_and, ne_eq,
            not_false_eq_true, true_and, false_or]
      · intro running gone
        rw [same] at running ⊢
        cases call with
        | openMenu => cases gone
        | closeMenu =>
            apply (keep_close b v.device).trans
            simp only [Visit.step, Bool.or_eq_true, Bool.not_eq_true'] at gone
            cases gone with
            | inl gone => exact away_forgets halted gone
            | inr forgets => exact forgets
        | input input =>
            have closed := empties.mp gone
            rw [keep_call windowed closed running (by intro same; cases same)]
            exact away_forgets halted gone

theorem Visit.consistent_init (b : Board) (d : Device) :
    Visit.Consistent b ⟨menuInit b d, false⟩ := by
  have occupied : (menuInit b d).menu.stack ≠ [] := stack_push (.inl rfl)
  constructor
  · exact windowed_init b d
  · intro _
    exact iff_of_false Bool.false_ne_true occupied
  · intro _ gone
    cases gone

/-- In any order of calls, the reads of `menu_input(Right)` stay in range exactly as long as
it is not called between a `menu_close` that keeps no place and the next `menu_open`. -/
theorem right_in_range_iff (b : Board) (d : Device) (calls : List MenuCall) :
    Along (menuStep b) RightInRange (menuInit b d) calls ↔
      Along (Visit.step b) Visit.RightAtHome ⟨menuInit b d, false⟩ calls := by
  have forget (v : Visit) (call : MenuCall) :
      (v.step b call).device = menuStep b v.device call := rfl
  refine (along_record forget (⟨menuInit b d, false⟩ : Visit) calls).trans ?_
  refine along_congr Visit.consistent_step ?_ (Visit.consistent_init b d) calls
  intro v call consistent
  have step_iff (running : v.device.halted = false) :
      v.device.menu.selectedIndex < v.device.menu.items.length ↔ v.away = false := by
    rw [consistent.windowed.right_iff, ne_eq, ← consistent.away_iff running,
      Bool.not_eq_true]
  constructor
  · intro inRange right running
    exact (step_iff running).mp (inRange right running)
  · intro atHome right running
    exact (step_iff running).mpr (atHome right running)

/-- The settings are told to remember no place, the menu is closed, and then Right comes. -/
theorem right_out_of_range :
    ¬ ∀ (b : Board) (d : Device) (calls : List MenuCall),
      Along (menuStep b) RightInRange (menuInit b d) calls := by
  intro all
  let calls : List MenuCall := [.input .down, .input .down, .input .right, .input .down,
    .input .right, .closeMenu]
  have along := all microdash (Device.boot microdash) (calls ++ [.input .right])
  have last := ((along_append _ calls [.input .right]).mp along).2.1
  exact absurd (last rfl (by decide)) (by decide)

/-! ### The calls with every check -/

namespace Checked
variable (b : Board) (d : Device)

/-- `front`, `push` and `pop` of the stack, which panic. -/
def front : List MenuLocation → Option MenuLocation
  | [] => none
  | top :: _ => some top

def push (stack : List MenuLocation) (loc : MenuLocation) : Option (List MenuLocation) :=
  if stack.length = menuStackCapacity then none else some (loc :: stack)

def pop : List MenuLocation → Option (List MenuLocation)
  | [] => none
  | _ :: stack => some stack

def menuFetchItems : Option Device :=
  if d.menu.stack = [] then some { d with menu := { d.menu with items := [] } }
  else do
    let top ← front d.menu.stack
    return { d with menu := { d.menu with items := menuItems b d top.menu } }

def menuPush (item : MenuBase) : Option Device :=
  let (isMenu, d) := onEnter b d item
  if isMenu then do
    let stack ← push d.menu.stack ⟨item, d.menu.scrollIndex, d.menu.selectedIndex⟩
    let d ← menuFetchItems b { d with menu := { d.menu with stack } }
    return { d with menu := { d.menu with scrollIndex := 0, selectedIndex := 0 } }
  else menuFetchItems b d

def menuPop : Option Device :=
  if d.menu.stack = [] then some d
  else do
    let top ← front d.menu.stack
    let stack ← pop d.menu.stack
    menuFetchItems b
      { d with
        menu := { d.menu with
          scrollIndex := top.scrollIndex
          selectedIndex := top.selectedIndex
          stack } }

def menuPopAll : Option Device :=
  (fun d => d.bind (menuPop b))^[d.menu.stack.length] (some d)

/-- The item on each row of the screen, when the menu is open. -/
def menuRows : Option (List (Option MenuBase)) :=
  if d.menu.menuOpened = false then some []
  else
    (List.range displayRows).mapM fun i =>
      if i < d.menu.items.length then (d.menu.items[d.menu.scrollIndex + i]?).map some
      else some none

def menuDraw : Option Device := (menuRows d).map fun _ => d

def menuOpen : Option Device := do
  let d ← if d.menu.keepMenuSpot then some d
    else do
      let d ← menuPopAll b d
      menuPush b d .root
  menuDraw { d with menu := { d.menu with menuOpened := true } }

def menuClose : Option Device := do
  let d ← if d.menu.keepMenuSpot then some d else menuPopAll b d
  menuDraw { d with menu := { d.menu with menuOpened := false } }

def menuInput : MenuInput → Option Device
  | .up =>
      if d.menu.selectedIndex ≠ 0 then menuDraw (Display.menuInput b d .up) else some d
  | .down =>
      if d.menu.selectedIndex + 1 < d.menu.items.length then
        menuDraw (Display.menuInput b d .down)
      else some d
  | .left =>
      if d.menu.stack.length ≠ 1 then do
        let d ← menuPop b d
        menuDraw d
      else some d
  | .right => do
      let item ← d.menu.items[d.menu.selectedIndex]?
      let d ← menuPush b d item
      menuDraw d

def menuCall : MenuCall → Option Device
  | .openMenu => menuOpen b d
  | .closeMenu => menuClose b d
  | .input input => menuInput b d input

def menuInit : Option Device :=
  menuPush b { d with menu := ⟨true, [], [], 0, 0, false⟩ } .root

def menuStep (call : MenuCall) : Option Device :=
  if d.halted then some d else menuCall b d call

/-- A whole run, which is lost as soon as one check fails. -/
def menuRun (calls : List MenuCall) : Option Device := do
  let d ← menuInit b d
  calls.foldlM (menuStep b) d

end Checked

theorem checked_fetchItems (b : Board) (d : Device) :
    Checked.menuFetchItems b d = some (menuFetchItems b d) := by
  unfold Checked.menuFetchItems menuFetchItems
  cases d.menu.stack with
  | nil => rfl
  | cons top rest => rfl

theorem checked_push {item : MenuBase} (room : d.menu.stack.length ≠ menuStackCapacity) :
    Checked.menuPush b d item = some (menuPush b d item) := by
  unfold Checked.menuPush menuPush
  cases isMenu : (onEnter b d item).1 with
  | true =>
      have unchanged := onEnter_of_menu isMenu
      simp only [isMenu, unchanged, if_true, Checked.push, menuEnter, if_neg room,
        checked_fetchItems, Option.bind_eq_bind, Option.bind_some, Option.pure_def]
  | false =>
      simp only [isMenu, Bool.false_eq_true, if_false]
      exact checked_fetchItems b (onEnter b d item).2

theorem checked_pop (b : Board) (d : Device) : Checked.menuPop b d = some (menuPop b d) := by
  unfold Checked.menuPop menuPop
  cases shape : d.menu.stack with
  | nil => rfl
  | cons top rest =>
      rw [if_neg (List.cons_ne_nil top rest)]
      exact checked_fetchItems b _

theorem checked_popAll (b : Board) (d : Device) :
    Checked.menuPopAll b d = some (menuPopAll b d) := by
  unfold Checked.menuPopAll menuPopAll
  generalize d.menu.stack.length = n
  induction n generalizing d with
  | zero => rfl
  | succ n ih =>
      rw [Function.iterate_succ_apply, Function.iterate_succ_apply, Option.bind_some, checked_pop]
      exact ih (menuPop b d)

theorem checked_draw (windowed : Windowed b d) : Checked.menuDraw d = some d := by
  have rows : ∀ i ∈ List.range displayRows, i < d.menu.items.length →
      d.menu.scrollIndex + i < d.menu.items.length := by
    intro i member
    exact windowed.window.row (List.mem_range.mp member)
  have drawn : (Checked.menuRows d).isSome = true := by
    unfold Checked.menuRows
    split
    · rfl
    · generalize List.range displayRows = indices at rows
      induction indices with
      | nil => rfl
      | cons i indices ih =>
          rw [List.mapM_cons]
          obtain ⟨later, same⟩ := Option.isSome_iff_exists.mp
            (ih fun j member => rows j (List.mem_cons_of_mem i member))
          by_cases filled : i < d.menu.items.length
          · have inside := rows i List.mem_cons_self filled
            simp only [if_pos filled, List.getElem?_eq_getElem inside, Option.map_some,
              Option.bind_eq_bind, Option.bind_some, same, Option.pure_def, Option.isSome_some]
          · simp only [if_neg filled, Option.bind_eq_bind, Option.bind_some, same,
              Option.pure_def, Option.isSome_some]
  obtain ⟨rows, same⟩ := Option.isSome_iff_exists.mp drawn
  unfold Checked.menuDraw
  rw [same, Option.map_some]

theorem Windowed.room (windowed : Windowed b d) : d.menu.stack.length ≠ menuStackCapacity := by
  have low := windowed.stacked.length_le
  unfold menuStackCapacity
  omega

def RightWithItems (d : Device) (call : MenuCall) : Prop :=
  call = .input .right → d.halted = false → d.menu.items ≠ []

/-- No check fails in a call made in a state that satisfies the invariant. -/
theorem checked_call {call : MenuCall} (windowed : Windowed b d)
    (legal : call = .input .right → d.menu.items ≠ []) :
    Checked.menuCall b d call = some (menuCall b d call) := by
  have after := windowed_call windowed call
  cases call with
  | openMenu =>
      simp only [menuCall] at after ⊢
      simp only [Checked.menuCall, Checked.menuOpen]
      rw [← checked_draw after]
      cases keep : d.menu.keepMenuSpot with
      | true =>
          simp only [if_true, Option.bind_eq_bind, Option.bind_some, menuOpen, keep]
      | false =>
          have room := (windowed_popAll windowed).room
          simp only [Bool.false_eq_true, if_false, checked_popAll, checked_push room,
            Option.bind_eq_bind, Option.bind_some, menuOpen, keep]
  | closeMenu =>
      simp only [menuCall] at after ⊢
      simp only [Checked.menuCall, Checked.menuClose]
      rw [← checked_draw after]
      cases keep : d.menu.keepMenuSpot with
      | true =>
          simp only [if_true, Option.bind_eq_bind, Option.bind_some, menuClose, keep]
      | false =>
          simp only [Bool.false_eq_true, if_false, checked_popAll, Option.bind_eq_bind,
            Option.bind_some, menuClose, keep]
  | input input =>
      simp only [menuCall] at after ⊢
      cases input with
      | up =>
          simp only [Checked.menuCall, Checked.menuInput]
          split
          · exact checked_draw after
          · rename_i first
            simp only [menuInput, if_neg first]
      | down =>
          simp only [Checked.menuCall, Checked.menuInput]
          split
          · exact checked_draw after
          · rename_i last
            simp only [menuInput, if_neg last]
      | left =>
          simp only [Checked.menuCall, Checked.menuInput, menuInput]
          split
          · simp only [checked_pop, Option.bind_eq_bind, Option.bind_some]
            exact checked_draw (windowed_pop windowed)
          · rfl
      | right =>
          have listed : d.menu.items.length ≠ 0 := by
            intro nothing
            exact legal rfl (List.length_eq_zero_iff.mp nothing)
          have inside := windowed.window.selected_lt listed
          have chosen := List.getElem?_eq_getElem inside
          simp only [menuInput, chosen] at after
          simp only [Checked.menuCall, Checked.menuInput, menuInput, chosen,
            checked_push windowed.room, Option.bind_eq_bind, Option.bind_some]
          exact checked_draw after

theorem windowed_step (call : MenuCall) (windowed : Windowed b d) :
    Windowed b (menuStep b d call) := by
  unfold menuStep
  split
  · exact windowed
  · exact windowed_call windowed call

theorem checked_run {calls : List MenuCall} (windowed : Windowed b d)
    (legal : Along (menuStep b) RightWithItems d calls) :
    calls.foldlM (Checked.menuStep b) d = some (run (menuStep b) d calls) := by
  induction calls generalizing d with
  | nil => rfl
  | cons call calls ih =>
      have first : Checked.menuStep b d call = some (menuStep b d call) := by
        unfold Checked.menuStep menuStep
        split
        · rfl
        · rename_i running
          apply checked_call windowed
          intro right
          exact legal.1 right (Bool.eq_false_iff.mpr running)
      rw [List.foldlM_cons, first]
      exact ih (windowed_step call windowed) legal.2

/-- In every state that calls in any order lead to, the selection is on the screen, and
no check of the stack or of an index fails on the way. -/
theorem menu_window (b : Board) (d : Device) (calls : List MenuCall)
    (legal : Along (menuStep b) RightWithItems (menuInit b d) calls) :
    let menu := (run (menuStep b) (menuInit b d) calls).menu
    (menu.items = [] → menu.scrollIndex = 0 ∧ menu.selectedIndex = 0) ∧
      (menu.items ≠ [] →
        menu.selectedIndex < menu.items.length ∧ menu.scrollIndex ≤ menu.selectedIndex ∧
          menu.selectedIndex < menu.scrollIndex + 3 ∧
          (menu.scrollIndex = 0 ∨ menu.scrollIndex + 3 ≤ menu.items.length)) ∧
      Checked.menuRun b d calls = some (run (menuStep b) (menuInit b d) calls) := by
  have initial := windowed_init b d
  have reached : Windowed b (run (menuStep b) (menuInit b d) calls) :=
    run_invariant (fun d call windowed => windowed_step call windowed) initial calls
  obtain ⟨empty, selected_lt, scroll_le, on_screen, full⟩ := reached.window
  refine ⟨?_, ?_, ?_⟩
  · intro nothing
    exact empty (List.length_eq_zero_iff.mpr nothing)
  · intro listed
    have inside := selected_lt fun nothing => listed (List.length_eq_zero_iff.mp nothing)
    exact ⟨inside, scroll_le, on_screen, full⟩
  · unfold Checked.menuRun
    have booted : Checked.menuInit b d = some (menuInit b d) := by
      apply checked_push
      intro full
      cases full
    rw [booted]
    exact checked_run initial legal

/-- Down to the output menu and into it, then the menu is closed and opened again. -/
theorem menu_window_output :
    let calls : List MenuCall := [.input .down, .openMenu, .input .right, .closeMenu, .openMenu]
    let booted := Device.boot microdash
    Along (menuStep microdash) RightWithItems (menuInit microdash booted) calls ∧
      (run (menuStep microdash) (menuInit microdash booted) calls).menu.items =
        [.radio .outputMode, .radio .profile, .socd] ∧
      Checked.menuRun microdash booted calls =
        some (run (menuStep microdash) (menuInit microdash booted) calls) := by
  intro calls booted
  have legal : Along (menuStep microdash) RightWithItems (menuInit microdash booted) calls := by
    refine ⟨?_, ?_, ?_, ?_, ?_, trivial⟩
    · intro right
      cases right
    · intro right
      cases right
    · intro _ _
      decide
    · intro right
      cases right
    · intro right
      cases right
  exact ⟨legal, by decide, (menu_window microdash booted calls legal).2.2⟩

end PassingLink.Display
