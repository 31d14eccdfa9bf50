import PassingLink.Display.Front

/-! The framebuffer against the state behind it: after every call it is what one drawing of the
whole screen would make of the menu, the settings and the status as they are. -/
namespace PassingLink.Display
open Input Lib Output

/-- The framebuffer of `Display()`. -/
def Screen.blank : Screen := ⟨true, List.replicate framebufferSize 0, List.length_replicate⟩

/-- The status line, which does not depend on what the stack held. -/
def statusText (st : Status) : List UInt8 := statusLine st (List.replicate (displayWidth + 1) 0)

def Front.screen (memory : Memory) (s : Front) : Screen :=
  run (Draw.draw memory.past) Screen.blank (s.asked.filterMap DisplayCall.drawn)

/-- The whole screen drawn anew: the rows of the menu or the logo, and then the status. -/
def drawAll (past : Nat → UInt8) (draws : List Draw) (st : Status) : Screen :=
  run (Draw.draw past) Screen.blank (draws ++ [.status (some (statusText st))])

/-- A board on which the output mode is only changed in the menu. -/
def NoModeSwitch (b : Board) : Prop :=
  b.available .modeLs = false ∧ b.available .modeRs = false ∧ b.available .modeDpad = false

/-- What `menu_draw` would draw of the device. `input_parse_mode` changes the output mode without a
draw, so that on a board with a mode switch an older mode may be drawn. -/
def Draws (b : Board) (d : Device) (t : TextSources) (draws : List Draw) : Prop :=
  ∃ mode bufs, (NoModeSwitch b → mode = d.outputMode) ∧
    menuDraw b { d with outputMode := mode } t bufs = some draws

/-- The framebuffer shows the menu and the settings of the device, and the status. -/
def Shows (memory : Memory) (b : Board) (version : CString) (s : Front) : Prop :=
  ∃ draws, Draws b s.device (s.texts version) draws ∧
    s.screen memory = drawAll memory.past draws s.status

/-! ### Drawing over what is there -/

section Draws
variable {past : Nat → UInt8} {s s' : Screen}

theorem run_initialized (draws : List Draw) :
    (run (Draw.draw past) s draws).initialized = s.initialized :=
  @run_invariant _ _ _ (fun t : Screen => t.initialized = s.initialized)
    (fun _ d same => (Draw.draw_initialized d).trans same) _ rfl draws

theorem redraw_status (line line' : Option (List UInt8)) :
    (Draw.status line').draw past ((Draw.status line).draw past s) =
      (Draw.status line').draw past s := by
  cases on : s.initialized with
  | false => simp only [Draw.draw_off on]
  | true =>
      have drawn := (@Draw.draw_initialized past s (.status line)).trans on
      apply Screen.ext
      · exact ((Draw.draw_initialized _).trans (Draw.draw_initialized _)).trans
          (Draw.draw_initialized _).symm
      · apply List.ext_getElem?
        intro i
        rw [Draw.getElem?_draw drawn, Draw.getElem?_draw on, Draw.getElem?_draw on]
        have same : (Draw.status line).covers i = (Draw.status line').covers i := rfl
        rw [same]
        split <;> rfl

theorem run_past_status (line : Option (List UInt8)) {draws : List Draw}
    (pictures : ∀ d ∈ draws, d.isStatus = false) :
    run (Draw.draw past) ((Draw.status line).draw past s) draws =
      (Draw.status line).draw past (run (Draw.draw past) s draws) := by
  induction draws generalizing s with
  | nil => rfl
  | cons d draws ih =>
      rw [run_cons, run_cons, draw_comm s rfl (pictures d List.mem_cons_self)]
      exact ih fun d' member => pictures d' (List.mem_cons_of_mem d member)

/-- What draws every row leaves nothing of the picture before. -/
theorem run_all (on : s.initialized = true) (on' : s'.initialized = true) {draws : List Draw}
    (repaints : Repaints draws) (line : Option (List UInt8)) :
    run (Draw.draw past) s (draws ++ [.status line]) =
      run (Draw.draw past) s' (draws ++ [.status line]) := by
  apply Screen.ext
  · rw [run_initialized, run_initialized, on, on']
  · apply List.ext_getElem?
    intro i
    apply run_fresh on on'
    intro inside
    by_cases row : i % 4 = 3
    · exact ⟨.status line, List.mem_append_right _ (List.mem_singleton_self _),
        decide_eq_true ⟨row, inside⟩⟩
    · obtain ⟨d, member, covers⟩ := repaints.covers row inside
      exact ⟨d, List.mem_append_left _ member, covers⟩

theorem redraw_pictures {before draws : List Draw} (st : Status)
    (pictures : ∀ d ∈ draws, d.isStatus = false) (repaints : Repaints draws) :
    run (Draw.draw past) (drawAll past before st) draws = drawAll past draws st := by
  have before_on := (@run_initialized past Screen.blank before).trans rfl
  have after : run (Draw.draw past) (run (Draw.draw past) Screen.blank before)
      (draws ++ [.status (some (statusText st))]) = _ := run_append _ draws _
  rw [drawAll, run_append, run_cons, run_nil, run_past_status _ pictures, drawAll,
    ← run_all before_on rfl repaints, after]
  rfl

end Draws

theorem mem_mapM {α β : Type} {f : α → Option β} {xs : List α} {ys : List β}
    (same : xs.mapM f = some ys) {y : β} (member : y ∈ ys) : ∃ x ∈ xs, f x = some y := by
  induction xs generalizing ys with
  | nil =>
      rw [List.mapM_nil] at same
      cases same
      cases member
  | cons x xs ih =>
      rw [List.mapM_cons] at same
      obtain ⟨first, is, same⟩ := Option.bind_eq_some_iff.mp same
      obtain ⟨rest, are, same⟩ := Option.bind_eq_some_iff.mp same
      cases same
      rcases List.mem_cons.mp member with rfl | member
      · exact ⟨x, List.mem_cons_self, is⟩
      · obtain ⟨x', inside, is⟩ := ih are member
        exact ⟨x', List.mem_cons_of_mem x inside, is⟩

section Menu
variable {b : Board} {d d' : Device} {t : TextSources} {bufs : Fin 3 → List UInt8}

theorem menuDraw_pictures {draws : List Draw} (drawn : menuDraw b d t bufs = some draws) :
    ∀ draw ∈ draws, draw.isStatus = false := by
  intro draw member
  unfold menuDraw at drawn
  split at drawn
  · obtain ⟨row, -, is⟩ := mem_mapM drawn member
    obtain ⟨line, -, rfl⟩ := Option.map_eq_some_iff.mp is
    rfl
  · cases drawn
    rw [List.mem_singleton.mp member]
    rfl

/-- What `menu_draw` reads of the device, but for the output mode. -/
structure SameMenu (d d' : Device) : Prop where
  menu : d'.menu = d.menu
  socdTypeX : d'.socdTypeX = d.socdTypeX
  socdTypeY : d'.socdTypeY = d.socdTypeY
  activeProfileIdx : d'.activeProfileIdx = d.activeProfileIdx

theorem SameMenu.menuDraw_eq (same : SameMenu d d') (modes : d'.outputMode = d.outputMode) :
    menuDraw b d' t bufs = menuDraw b d t bufs := by
  have selected : getSelectedOption d' = getSelectedOption d := by
    funext menu
    cases menu with
    | socd x => simp only [getSelectedOption, same.socdTypeX, same.socdTypeY]
    | outputMode => simp only [getSelectedOption, modes]
    | profile => exact same.activeProfileIdx
  have items : itemOf b d' t = itemOf b d t := by
    funext item
    cases item with
    | socd => simp only [itemOf, same.socdTypeX, same.socdTypeY]
    | radio | radioItem => simp only [itemOf, selected]
    | _ => rfl
  simp only [menuDraw, menuLine, same.menu, items]

theorem SameMenu.draws (same : SameMenu d d') (modes : NoModeSwitch b → d'.outputMode = d.outputMode)
    {draws : List Draw} (drawn : Draws b d t draws) : Draws b d' t draws := by
  obtain ⟨mode, bufs, current, drawn⟩ := drawn
  refine ⟨mode, bufs, fun fixed => (current fixed).trans (modes fixed).symm, ?_⟩
  have moded : SameMenu { d with outputMode := mode } { d' with outputMode := mode } :=
    ⟨same.menu, same.socdTypeX, same.socdTypeY, same.activeProfileIdx⟩
  exact (moded.menuDraw_eq rfl).trans drawn

/-! ### What a call into the menu does to the lock -/

structure KeepsLock (d d' : Device) : Prop where
  inputLocked : d'.inputLocked = d.inputLocked
  running : d'.halted = false → d.halted = false

theorem KeepsLock.refl (d : Device) : KeepsLock d d := ⟨rfl, id⟩

theorem KeepsLock.trans {d'' : Device} (first : KeepsLock d d') (second : KeepsLock d' d'') :
    KeepsLock d d'' :=
  ⟨second.inputLocked.trans first.inputLocked,
    fun running => first.running (second.running running)⟩

theorem menuPush_keepsLock (item : MenuBase) :
    KeepsLock (onEnter b d item).2 (menuPush b d item) := by
  unfold menuPush
  split
  rename_i isMenu entered is
  rw [is]
  split
  · unfold menuEnter
    split
    · exact ⟨rfl, fun running => by cases running⟩
    · exact ⟨rfl, id⟩
  · exact ⟨rfl, id⟩

theorem menuPop_keepsLock (b : Board) (d : Device) : KeepsLock d (menuPop b d) := by
  unfold menuPop
  split
  · exact .refl d
  · exact ⟨rfl, id⟩

theorem menuPopAll_keepsLock (b : Board) (d : Device) : KeepsLock d (menuPopAll b d) :=
  menuPopAll_keeps (P := KeepsLock d) (.refl d) fun d' before =>
    before.trans (menuPop_keepsLock b d')

theorem menuOpen_keepsLock (b : Board) (d : Device) : KeepsLock d (menuOpen b d) := by
  unfold menuOpen
  split
  · exact ⟨rfl, id⟩
  · have emptied := menuPopAll_keepsLock b d
    have pushed := @menuPush_keepsLock b (menuPopAll b d) .root
    exact ⟨pushed.inputLocked.trans emptied.inputLocked,
      fun running => emptied.running (pushed.running running)⟩

theorem menuClose_keepsLock (b : Board) (d : Device) : KeepsLock d (menuClose b d) := by
  unfold menuClose
  split
  · exact ⟨rfl, id⟩
  · have emptied := menuPopAll_keepsLock b d
    exact ⟨emptied.inputLocked, emptied.running⟩

/-- Only Right acts, and then as the selected item does. -/
theorem menuInput_keepsLock (input : MenuInput) :
    KeepsLock d (menuInput b d input) ∨
      input = .right ∧ ∃ item, d.menu.items[d.menu.selectedIndex]? = some item ∧
        KeepsLock (onEnter b d item).2 (menuInput b d .right) := by
  cases input with
  | up =>
      refine .inl ?_
      simp only [menuInput]
      split
      · exact ⟨rfl, id⟩
      · exact .refl d
  | down =>
      refine .inl ?_
      simp only [menuInput]
      split
      · exact ⟨rfl, id⟩
      · exact .refl d
  | left =>
      refine .inl ?_
      simp only [menuInput]
      split
      · exact menuPop_keepsLock b d
      · exact .refl d
  | right =>
      cases chosen : d.menu.items[d.menu.selectedIndex]? with
      | none =>
          refine .inl ?_
          simp only [menuInput, chosen]
          exact ⟨rfl, fun running => by cases running⟩
      | some item =>
          refine .inr ⟨rfl, item, rfl, ?_⟩
          simp only [menuInput, chosen]
          exact menuPush_keepsLock item

end Menu

/-! ### The invariant -/

/-- The status knows the lock, and the rows show what they should unless the device is gone. -/
structure Mirrored (memory : Memory) (b : Board) (version : CString) (s : Front) : Prop where
  windowed : Windowed b s.device
  locked : s.status.locked = s.device.inputLocked
  painted : ∃ draws, s.screen memory = drawAll memory.past draws s.status
  shows : s.device.halted = false → Shows memory b version s

namespace Front
variable {memory : Memory} {b : Board} {version : CString} {s : Front}

theorem screen_ask (calls : List DisplayCall) :
    (s.ask calls).screen memory =
      run (Draw.draw memory.past) (s.screen memory) (calls.filterMap DisplayCall.drawn) := by
  rw [screen, ask, List.filterMap_append, run_append]
  rfl

theorem screen_blit : s.displayBlit.screen memory = s.screen memory := screen_ask [.blit]

theorem statusLine_memory (memory : Memory) (st : Status) (n : Nat) :
    statusLine st (memory.statusLine n).toList = statusText st :=
  statusLine_eq st (memory.statusLine n).length_toList List.length_replicate

/-- The line of a new status goes over the line of the old one. -/
theorem screen_status (st : Status) {draws : List Draw}
    (painted : s.screen memory = drawAll memory.past draws s.status) :
    (displayBlit (displayDrawStatusLine memory { s with status := st })).screen memory =
      drawAll memory.past draws st := by
  rw [screen_blit, displayDrawStatusLine, screen_ask, statusLine_memory]
  have same : screen memory { s with status := st } = s.screen memory := rfl
  rw [same, painted, drawAll, drawAll, run_append, run_append]
  exact redraw_status _ _

/-- A drawn menu, whatever was in its rows before. -/
theorem shows_menuDraw {draws : List Draw} (windowed : Windowed b s.device)
    (painted : s.screen memory = drawAll memory.past draws s.status) :
    Shows memory b version (s.menuDraw memory b version) ∧
      (s.menuDraw memory b version).status = s.status := by
  obtain ⟨draws', drawn, repaints⟩ :=
    menuDraw_repaints windowed (s.texts version) (memory.menuLine s.asked.length)
  have result : s.menuDraw memory b version = (s.ask (draws'.map .draw)).displayBlit := by
    rw [menuDraw, drawn]
  have erased : (draws'.map DisplayCall.draw).filterMap DisplayCall.drawn = draws' := by
    rw [List.filterMap_map]
    exact List.filterMap_some
  rw [result]
  refine ⟨⟨draws', ⟨s.device.outputMode, _, fun _ => rfl, drawn⟩, ?_⟩, rfl⟩
  rw [screen_blit, screen_ask, erased, painted]
  exact redraw_pictures s.status (menuDraw_pictures drawn) repaints

end Front

section Invariant
variable {memory : Memory} {b : Board} {version : CString} {s : Front}

theorem Mirrored.setStatus (mirrored : Mirrored memory b version s) (st : Status)
    (locked : st.locked = s.device.inputLocked) :
    Mirrored memory b version
      (Front.displayDrawStatusLine memory { s with status := st }).displayBlit := by
  obtain ⟨windowed, -, ⟨draws, painted⟩, shows⟩ := mirrored
  refine ⟨windowed, locked, ⟨draws, Front.screen_status st painted⟩, ?_⟩
  intro running
  obtain ⟨draws, drawn, painted⟩ := shows running
  exact ⟨draws, drawn, Front.screen_status st painted⟩

/-- The samples are on no screen. -/
theorem Mirrored.measured (mirrored : Mirrored memory b version s) (metrics : Metrics.MetricsState) :
    Mirrored memory b version { s with metrics } :=
  ⟨mirrored.windowed, mirrored.locked, mirrored.painted, mirrored.shows⟩

theorem Mirrored.inputRead (mirrored : Mirrored memory b version s) (ticks : UInt64) :
    Mirrored memory b version (s.recordInputRead b ticks) := by
  unfold Front.recordInputRead
  split
  · exact mirrored.measured _
  · exact mirrored

theorem Mirrored.usbWrite (mirrored : Mirrored memory b version s) (ticks : UInt64) :
    Mirrored memory b version (s.recordUsbWrite memory b ticks) := by
  unfold Front.recordUsbWrite
  split
  · dsimp only
    split
    · exact (mirrored.measured _).setStatus _ mirrored.locked
    · exact mirrored.measured _
  · exact mirrored

theorem Mirrored.moved (call : MenuCall) (windowed : Windowed b s.device)
    (locked : s.status.locked = (menuCall b s.device call).inputLocked)
    (painted : ∃ draws, s.screen memory = drawAll memory.past draws s.status) :
    Mirrored memory b version (s.moved memory b version call) := by
  have after := windowed_call windowed call
  obtain ⟨draws, painted⟩ := painted
  cases halted : (menuCall b s.device call).halted with
  | true =>
      have result : s.moved memory b version call =
          { s with device := menuCall b s.device call } := if_pos halted
      rw [result]
      exact ⟨after, locked, ⟨draws, painted⟩, fun running => by
        cases halted.symm.trans running⟩
  | false =>
      have result : s.moved memory b version call =
          Front.menuDraw memory b version { s with device := menuCall b s.device call } :=
        if_neg (Bool.eq_false_iff.mp halted)
      rw [result]
      obtain ⟨shows, status⟩ := @Front.shows_menuDraw memory b version
        { s with device := menuCall b s.device call } draws after painted
      have device := @Front.menuDraw_device memory b version
        { s with device := menuCall b s.device call }
      refine ⟨device ▸ after, ?_, ?_, fun _ => shows⟩
      · rw [status, device]
        exact locked
      · obtain ⟨draws', -, painted'⟩ := shows
        exact ⟨draws', painted'⟩

theorem Mirrored.showLocked (mirrored : Mirrored memory b version s) (display : b.display = true)
    (locked : Bool) :
    ((s.showLocked memory b locked).status.locked = locked) ∧
      (∃ draws, (s.showLocked memory b locked).screen memory =
        drawAll memory.past draws (s.showLocked memory b locked).status) ∧
      (s.device.halted = false → Shows memory b version (s.showLocked memory b locked)) := by
  unfold Front.showLocked
  split
  · obtain ⟨-, -, ⟨draws, painted⟩, shows⟩ := mirrored
    refine ⟨rfl, ⟨draws, Front.screen_status { s.status with locked } painted⟩, ?_⟩
    intro running
    obtain ⟨draws, drawn, painted⟩ := shows running
    exact ⟨draws, drawn, Front.screen_status { s.status with locked } painted⟩
  · rename_i unchanged
    have same : locked = s.device.inputLocked := by
      by_contra differs
      exact unchanged ⟨display, differs⟩
    exact ⟨mirrored.locked.trans same.symm, mirrored.painted, mirrored.shows⟩

/-- After the action of an item the status knows the lock that the device gets. -/
theorem Mirrored.onEnter (mirrored : Mirrored memory b version s) (display : b.display = true)
    (item : MenuBase) :
    (s.onEnter memory b item).status.locked =
        (Display.onEnter b s.device item).2.inputLocked ∧
      ∃ draws, (s.onEnter memory b item).screen memory =
        drawAll memory.past draws (s.onEnter memory b item).status := by
  have kept := mirrored.locked
  have painted := mirrored.painted
  cases item with
  | lock =>
      have told := mirrored.showLocked display true
      exact ⟨told.1, told.2.1⟩
  | unlock =>
      have told := mirrored.showLocked display false
      exact ⟨told.1, told.2.1⟩
  | increase =>
      simp only [Front.onEnter, Front.usbDelayIncrease]
      split
      · exact ⟨kept, painted⟩
      · exact ⟨kept, painted⟩
  | decrease =>
      simp only [Front.onEnter, Front.usbDelayDecrease]
      split
      · exact ⟨kept, painted⟩
      · exact ⟨kept, painted⟩
  | radioItem parent index =>
      cases parent with
      | socd x => cases x <;> exact ⟨kept, painted⟩
      | outputMode | profile => exact ⟨kept, painted⟩
  | _ => exact ⟨kept, painted⟩

theorem Mirrored.call (mirrored : Mirrored memory b version s) (display : b.display = true)
    (call : MenuCall) : Mirrored memory b version (s.call memory b version call) := by
  have windowed := mirrored.windowed
  have painted := mirrored.painted
  have kept (call : MenuCall) (keeps : KeepsLock s.device (menuCall b s.device call)) :
      Mirrored memory b version (s.moved memory b version call) :=
    .moved call windowed (mirrored.locked.trans keeps.inputLocked.symm) painted
  cases call with
  | openMenu => exact kept .openMenu (menuOpen_keepsLock b s.device)
  | closeMenu => exact kept .closeMenu (menuClose_keepsLock b s.device)
  | input input =>
      have moves : (KeepsLock s.device (menuCall b s.device (.input input)) ∨ _) :=
        @menuInput_keepsLock b s.device input
      cases input with
      | up =>
          simp only [Front.call]
          split
          · exact kept (.input .up) (moves.resolve_right fun acts => by cases acts.1)
          · exact mirrored
      | down =>
          simp only [Front.call]
          split
          · exact kept (.input .down) (moves.resolve_right fun acts => by cases acts.1)
          · exact mirrored
      | left =>
          simp only [Front.call]
          split
          · exact kept (.input .left) (moves.resolve_right fun acts => by cases acts.1)
          · exact mirrored
      | right =>
          cases chosen : s.device.menu.items[s.device.menu.selectedIndex]? with
          | none =>
              simp only [Front.call, chosen]
              refine kept (.input .right) (moves.resolve_right ?_)
              rintro ⟨-, item, is, -⟩
              cases chosen.symm.trans is
          | some item =>
              simp only [Front.call, chosen]
              obtain ⟨told, painted⟩ := mirrored.onEnter display item
              have device : (s.onEnter memory b item).device = s.device :=
                Front.onEnter_device item
              refine .moved (.input .right) (device.symm ▸ windowed) ?_ painted
              rw [device, told]
              have pushed := @menuPush_keepsLock b s.device item
              have result : menuCall b s.device (.input .right) = menuPush b s.device item := by
                simp only [menuCall, menuInput, chosen]
              rw [result]
              exact pushed.inputLocked.symm

theorem polled_mode (d : Device) (p : Poll) (fixed : NoModeSwitch b) :
    d.mode b p = d.outputMode := by
  obtain ⟨ls, rs, dpad⟩ := fixed
  simp only [Device.mode, inputParseMode, ls, rs, dpad, Bool.false_eq_true, false_and, or_self,
    if_false]

theorem Windowed.of_menu {d d' : Device} (same : d'.menu = d.menu) (windowed : Windowed b d) :
    Windowed b d' := by
  obtain ⟨stacked, count, deeper, window⟩ := windowed
  constructor
  · exact same.symm ▸ stacked
  · exact same.symm ▸ count
  · exact same.symm ▸ deeper
  · exact same.symm ▸ window

/-- Changes of the device that the screen does not show. -/
theorem Mirrored.elsewhere {d : Device} (mirrored : Mirrored memory b version s)
    (same : SameMenu s.device d) (modes : NoModeSwitch b → d.outputMode = s.device.outputMode)
    (locked : d.inputLocked = s.device.inputLocked) (running : d.halted = s.device.halted) :
    Mirrored memory b version { s with device := d } := by
  refine ⟨mirrored.windowed.of_menu same.menu, mirrored.locked.trans locked.symm,
    mirrored.painted, ?_⟩
  intro still
  obtain ⟨draws, drawn, painted⟩ := mirrored.shows (running.symm.trans still)
  exact ⟨draws, same.draws modes drawn, painted⟩

theorem Mirrored.calls (mirrored : Mirrored memory b version s) (display : b.display = true)
    (calls : List MenuCall) :
    Mirrored memory b version (calls.foldl (Front.call memory b version) s) :=
  @run_invariant _ _ (Front.call memory b version) (Mirrored memory b version)
    (fun _ call before => before.call display call) _ mirrored calls

theorem Mirrored.step (display : b.display = true) (s : Front) (e : FrontEvent)
    (mirrored : Mirrored memory b version s) :
    Mirrored memory b version (s.step memory b version e) := by
  cases halted : s.device.halted with
  | true =>
      have still : s.step memory b version e = s := if_pos halted
      rw [still]
      exact mirrored
  | false =>
      simp only [Front.step, halted, Bool.false_eq_true, if_false]
      cases e with
      | menu call => exact mirrored.call display call
      | inputRead ticks => exact mirrored.inputRead ticks
      | usbWrite ticks => exact mirrored.usbWrite ticks
      | touchpad data =>
          exact mirrored.elsewhere ⟨rfl, rfl, rfl, rfl⟩ (fun _ => rfl) rfl halted.symm
      | uninit => exact mirrored.measured _
      | connection probing probeType => exact mirrored.setStatus _ mirrored.locked
      | input e =>
          cases e with
          | poll p =>
              have polled : Mirrored memory b version (s.polled b p) :=
                mirrored.elsewhere ⟨rfl, rfl, rfl, rfl⟩ (polled_mode s.device p) rfl rfl
              exact polled.calls display _
          | setLocked locked elapsed =>
              obtain ⟨told, painted, shows⟩ := mirrored.showLocked display locked
              have stepped : s.device.step b (.setLocked locked elapsed) =
                  { s.device with clock := s.device.clock + elapsed }.inputSetLocked b locked
                    (s.device.clock + elapsed) := by
                simp only [Device.step, halted, Bool.false_eq_true, if_false]
              have same : SameMenu s.device (s.device.step b (.setLocked locked elapsed)) := by
                rw [stepped]
                exact ⟨rfl, rfl, rfl, rfl⟩
              have modes : (s.device.step b (.setLocked locked elapsed)).outputMode =
                  s.device.outputMode := by
                rw [stepped]
                rfl
              refine ⟨mirrored.windowed.of_menu same.menu, ?_, painted, ?_⟩
              · simp only [Front.input, stepped]
                exact told
              · intro _
                obtain ⟨draws, drawn, painted⟩ := shows halted
                rw [Front.showLocked_device] at drawn
                exact ⟨draws, same.draws (fun _ => modes) drawn, painted⟩
          | setRawState raw =>
              have stepped : s.device.step b (.setRawState raw) =
                  { s.device with rawState := raw } := by
                simp only [Device.step, halted, Bool.false_eq_true, if_false]
              simp only [Front.input, stepped]
              exact mirrored.elsewhere ⟨rfl, rfl, rfl, rfl⟩ (fun _ => rfl) rfl rfl

theorem mirrored_init (memory : Memory) (b : Board) (version : CString) (d : Device)
    (ticks : UInt32) (unlocked : d.inputLocked = false) :
    Mirrored memory b version (Front.displayInit memory b d ticks) := by
  have windowed := windowed_init b d
  have kept := @menuPush_keepsLock b { d with menu := ⟨true, [], [], 0, 0, false⟩ } .root
  have closed : (menuInit b d).menu.menuOpened = false := rfl
  have screen : (Front.displayInit memory b d ticks).screen memory =
      drawAll memory.past [.logo] ⟨false, true, none, .nx⟩ := by
    rw [Front.displayInit, Front.screen_blit, Front.displayDrawStatusLine, Front.screen_ask,
      Front.statusLine_memory, Front.screen_ask, drawAll, run_append]
    simp only [List.filterMap_cons, List.filterMap_nil, DisplayCall.drawn, Front.screen, run_nil,
      Front.ask]
  refine ⟨windowed, ?_, ⟨[.logo], screen⟩, ?_⟩
  · exact (kept.inputLocked.trans unlocked).symm
  · intro _
    refine ⟨[.logo], ⟨d.outputMode, fun _ => [], fun _ => rfl, ?_⟩, screen⟩
    have device : (Front.displayInit memory b d ticks).device = menuInit b d := rfl
    rw [Display.menuDraw, device]
    exact if_neg (Bool.eq_false_iff.mp closed)

theorem mirrored_run (memory : Memory) (b : Board) (version : CString) (d : Device)
    (ticks : UInt32) (display : b.display = true) (unlocked : d.inputLocked = false)
    (es : List FrontEvent) :
    Mirrored memory b version
      (run (Front.step memory b version) (Front.displayInit memory b d ticks) es) :=
  run_invariant (fun s e => Mirrored.step display s e)
    (mirrored_init memory b version d ticks unlocked) es

end Invariant

/-- Whatever is polled, called in the menu, locked, measured or probed, the framebuffer is what
drawing the whole screen now would make of it; and the display does not change what the inputs do. -/
theorem screen_mirrors (memory : Memory) (b : Board) (version : CString) (d : Device)
    (ticks : UInt32) (display : b.display = true) (unlocked : d.inputLocked = false)
    (es : List FrontEvent) :
    let s := run (Front.step memory b version) (Front.displayInit memory b d ticks) es
    s.status.locked = s.device.inputLocked ∧
      (s.device.halted = false → Shows memory b version s) ∧
      ∀ es' : List Input.Event, es = es'.map .input →
        s.device = run (Device.step b) (menuInit b d) es' := by
  have mirrored := mirrored_run memory b version d ticks display unlocked es
  refine ⟨mirrored.locked, mirrored.shows, ?_⟩
  rintro es' rfl
  have forget (s : Front) (e : Input.Event) : (Front.step memory b version s (.input e)).device =
      s.device.step b e := Front.step_input_device s e
  have mapped : run (Front.step memory b version) (Front.displayInit memory b d ticks)
      (es'.map .input) = run (fun s e => Front.step memory b version s (.input e))
        (Front.displayInit memory b d ticks) es' := List.foldl_map
  rw [mapped]
  exact run_forget Front.device forget _ es'

def noMemory : Memory where
  past := fun _ => 0
  menuLine := fun _ _ => List.replicate (displayWidth + 1) 0xa5
  statusLine := fun _ => Vector.replicate (displayWidth + 1) 0xa5

def versionText : CString := ⟨ascii "v1.2", by decide⟩

/-- The menu is opened and the inputs are locked in it while a report is written. -/
theorem lock_shown :
    let es : List FrontEvent :=
      [.menu .openMenu, .inputRead 7, .menu (.input .right), .usbWrite 27, .connection false .ps4]
    let s := run (Front.step noMemory microdash versionText)
      (Front.displayInit noMemory microdash (Device.boot microdash) 22) es
    s.status.locked = true ∧ Shows noMemory microdash versionText s := by
  intro es s
  obtain ⟨-, shows, -⟩ := screen_mirrors noMemory microdash versionText (Device.boot microdash) 22
    rfl (boot_unlocked microdash) es
  exact ⟨rfl, shows rfl⟩

end PassingLink.Display
