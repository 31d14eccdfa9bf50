import PassingLink.Display.Mirror
import PassingLink.Lib.Refresh

/-! The work item that sends the framebuffer to the panel, between the calls that draw and within
them. -/
namespace PassingLink.Display
open Input Lib Output

/-- The bytes that a draw stores, in their order. -/
def Draw.writes (past : Nat → UInt8) : Draw → List (Write UInt8)
  | .status line => (setRow past 3 line).writes
  | .menu row line => (setRow past row.castSucc line).writes
  | .logo => logoWrites

/-- What a call does to the state it shares with the work item. `set_row` and `draw_logo` set
`dirty_` first and then store byte by byte; `display_blit` submits the item to the system work
queue, whose thread may preempt the one that draws. -/
def DisplayCall.steps (past : Nat → UInt8) : DisplayCall → List (RefreshEvent (Write UInt8))
  | .draw d => .mark :: (d.writes past).map .edit
  | .blit => [.submit]

/-- The end of `ssd1306_init`: a display whose `dirty_` the constructor does not set is blitted. -/
def panelInit (dirty taken : Bool) : Refresh (List UInt8) UInt8 where
  buffer := Screen.blank.buffer
  dirty := false
  pending := false
  worker := .idle
  shown := if dirty ∧ taken then some Screen.blank.buffer else none
  owing := false
  missed := false

/-- One step of the callers or of the work item, which transfers the buffer byte by byte. -/
def panelStep : Refresh (List UInt8) UInt8 → RefreshEvent (Write UInt8) →
    Refresh (List UInt8) UInt8 :=
  Refresh.step id Write.apply

def isCaller : RefreshEvent (Write UInt8) → Bool
  | .work _ => false
  | _ => true

/-- The calls come one after the other; the work item runs anywhere between their steps. -/
def Interleaves (memory : Memory) (s : Front) (trace : List (RefreshEvent (Write UInt8))) : Prop :=
  trace.filter isCaller = s.asked.flatMap (DisplayCall.steps memory.past)

variable {memory : Memory} {b : Board} {version : CString} {dirty taken : Bool} {s : Front}

theorem longer (buf : List UInt8) (write : Write UInt8) :
    buf.length ≤ (write.apply buf).length := by
  simp only [Write.apply, overwrite, List.length_append, List.length_take, List.length_drop]
  omega

/-! ### The buffer of the panel is that of the callers -/

def edits (trace : List (RefreshEvent (Write UInt8))) : List (Write UInt8) :=
  trace.filterMap fun e =>
    match e with
    | .edit write => some write
    | _ => none

theorem work_kept (r : Refresh (List UInt8) UInt8) (taken : Bool) :
    (r.work id taken).buffer = r.buffer ∧ (r.work id taken).owing = r.owing := by
  unfold Refresh.work
  split
  · split <;> exact ⟨rfl, rfl⟩
  · exact ⟨rfl, rfl⟩
  · exact ⟨rfl, rfl⟩
  · unfold Refresh.send
    split
    · split <;> exact ⟨rfl, rfl⟩
    · exact ⟨rfl, rfl⟩

theorem panel_buffer (r : Refresh (List UInt8) UInt8) (trace : List (RefreshEvent (Write UInt8))) :
    (run panelStep r trace).buffer = (edits trace).foldl Write.apply r.buffer := by
  induction trace generalizing r with
  | nil => rfl
  | cons e trace ih =>
      rw [run_cons, ih]
      cases e with
      | mark | submit | edit write => rfl
      | work taken => exact congrArg (List.foldl Write.apply · (edits trace)) (work_kept r taken).1

theorem edits_filter (trace : List (RefreshEvent (Write UInt8))) :
    edits (trace.filter isCaller) = edits trace := by
  induction trace with
  | nil => rfl
  | cons e trace ih =>
      cases e with
      | mark | submit | work taken => exact ih
      | edit write => exact congrArg (write :: ·) ih

theorem edits_steps (past : Nat → UInt8) (calls : List DisplayCall) :
    edits (calls.flatMap (DisplayCall.steps past)) =
      (calls.filterMap DisplayCall.drawn).flatMap (Draw.writes past) := by
  have writes (stores : List (Write UInt8)) : edits (stores.map .edit) = stores := by
    induction stores with
    | nil => rfl
    | cons write stores ih => exact congrArg (write :: ·) ih
  induction calls with
  | nil => rfl
  | cons call calls ih =>
      rw [List.flatMap_cons, edits, List.filterMap_append]
      cases call with
      | draw d => exact congrArg₂ (· ++ ·) (writes (d.writes past)) ih
      | blit => exact ih

theorem draw_writes {past : Nat → UInt8} {screen : Screen} (on : screen.initialized = true)
    (d : Draw) :
    (d.draw past screen).buffer = (d.writes past).foldl Write.apply screen.buffer := by
  cases d with
  | status line | menu row line =>
      simp only [Draw.draw, displaySetLine, if_pos on]
      rfl
  | logo =>
      simp only [Draw.draw, displayDrawLogo, if_pos on]
      rfl

theorem run_writes {past : Nat → UInt8} {screen : Screen} (on : screen.initialized = true)
    (draws : List Draw) :
    (run (Draw.draw past) screen draws).buffer =
      (draws.flatMap (Draw.writes past)).foldl Write.apply screen.buffer := by
  induction draws generalizing screen with
  | nil => rfl
  | cons d draws ih =>
      rw [run_cons, ih ((Draw.draw_initialized d).trans on), draw_writes on, List.flatMap_cons,
        List.foldl_append]

theorem Interleaves.buffer {trace : List (RefreshEvent (Write UInt8))}
    (interleaves : Interleaves memory s trace) :
    (run panelStep (panelInit dirty taken) trace).buffer = (s.screen memory).buffer := by
  rw [panel_buffer, ← edits_filter, interleaves, edits_steps, Front.screen, run_writes rfl]
  rfl

/-- Nothing is left to submit once the last step of the callers has been a `display_blit`. -/
theorem submitted {r : Refresh (List UInt8) UInt8} {trace : List (RefreshEvent (Write UInt8))}
    (last : (trace.filter isCaller).getLast? = some .submit) :
    (run panelStep r trace).owing = false := by
  induction trace using List.reverseRecOn with
  | nil => cases last
  | append_singleton trace e ih =>
      rw [run_append, run_cons, run_nil]
      cases e with
      | work taken =>
          have silent : [RefreshEvent.work (δ := Write UInt8) taken].filter isCaller = [] := rfl
          rw [List.filter_append, silent, List.append_nil] at last
          exact (work_kept (run panelStep r trace) taken).2.trans (ih last)
      | submit => rfl
      | mark | edit write =>
          rw [List.filter_append] at last
          cases List.getLast?_concat.symm.trans last

/-! ### Every call ends with a blit -/

def Front.Blitted (s : Front) : Prop := s.asked.getLast? = some .blit

namespace Front

theorem blitted_blit (s : Front) : s.displayBlit.Blitted := List.getLast?_concat

theorem Blitted.menuDraw (blitted : s.Blitted) : (s.menuDraw memory b version).Blitted := by
  unfold Front.menuDraw
  split
  · exact blitted_blit _
  · exact blitted

theorem Blitted.moved (blitted : s.Blitted) (call : MenuCall) :
    (s.moved memory b version call).Blitted := by
  simp only [Front.moved]
  split
  · exact blitted
  · exact Blitted.menuDraw (s := { s with device := menuCall b s.device call }) blitted

theorem Blitted.showLocked (blitted : s.Blitted) (locked : Bool) :
    (s.showLocked memory b locked).Blitted := by
  unfold Front.showLocked
  split
  · exact blitted_blit _
  · exact blitted

theorem Blitted.onEnter (blitted : s.Blitted) (item : MenuBase) :
    (s.onEnter memory b item).Blitted := by
  unfold Front.onEnter
  split
  · exact blitted.showLocked true
  · exact blitted.showLocked false
  · unfold usbDelayIncrease
    split <;> exact blitted
  · unfold usbDelayDecrease
    split <;> exact blitted
  · exact blitted

theorem Blitted.call (blitted : s.Blitted) (call : MenuCall) :
    (s.call memory b version call).Blitted := by
  cases call with
  | openMenu => exact blitted.moved .openMenu
  | closeMenu => exact blitted.moved .closeMenu
  | input input =>
      cases input with
      | right =>
          simp only [Front.call]
          split
          · exact (blitted.onEnter _).moved (.input .right)
          · exact blitted.moved (.input .right)
      | up | down | left =>
          simp only [Front.call]
          split
          · exact blitted.moved _
          · exact blitted

theorem Blitted.step (s : Front) (e : FrontEvent) (blitted : s.Blitted) :
    (s.step memory b version e).Blitted := by
  unfold Front.step
  split
  · exact blitted
  · cases e with
    | menu call => exact blitted.call call
    | inputRead ticks =>
        dsimp only [recordInputRead]
        split <;> exact blitted
    | usbWrite ticks =>
        dsimp only [recordUsbWrite]
        split
        · split
          · exact blitted_blit _
          · exact blitted
        · exact blitted
    | touchpad data => exact blitted
    | uninit => exact blitted
    | connection probing probeType => exact blitted_blit _
    | input e =>
        cases e with
        | poll p =>
            exact @run_invariant _ _ (Front.call memory b version) Blitted
              (fun _ call before => before.call call) (s.polled b p) blitted _
        | setLocked locked elapsed => exact blitted.showLocked locked
        | setRawState raw => exact blitted

end Front

end PassingLink.Display
