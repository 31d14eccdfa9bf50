import PassingLink.Display.Draw
import PassingLink.Display.Paint
import PassingLink.Output.Probe

/-! Who draws into the framebuffer: the status line of `display.cpp` into the last row, the menu
and the logo into the three rows above it. -/
namespace PassingLink.Display
open Input Lib Output

structure Screen where
  initialized : Bool
  buffer : List UInt8
  size : buffer.length = framebufferSize

@[ext] theorem Screen.ext {s t : Screen} (initialized : s.initialized = t.initialized)
    (buffer : s.buffer = t.buffer) : s = t := by
  cases s
  cases t
  cases initialized
  cases buffer
  rfl

theorem Screen.buffer_behind (s : Screen) {i : Nat} (behind : ¬ i < 512) : s.buffer[i]? = none :=
  List.getElem?_eq_none (Nat.le_trans (Nat.le_of_eq s.size) (Nat.le_of_not_lt behind))

/-! ### The primitives of `ssd1306.cpp` -/

/-- `*logo++`, three rows of one column after the other. -/
def logoWrites : List (Write UInt8) :=
  (List.range 128).flatMap fun x =>
    (List.range 3).map fun y => ⟨x * 4 + y, [displayLogo.getD (x * 3 + y) 0]⟩

theorem logo_single (write : Write UInt8) :
    write ∈ logoWrites ↔
      ∃ i, (i % 4 < 3 ∧ i < 512) ∧ write = ⟨i, [displayLogo.getD (i / 4 * 3 + i % 4) 0]⟩ := by
  unfold logoWrites
  rw [List.mem_flatMap]
  constructor
  · rintro ⟨x, below, member⟩
    obtain ⟨y, inside, rfl⟩ := List.mem_map.mp member
    have column : (x * 4 + y) / 4 = x := by
      have low := List.mem_range.mp inside
      omega
    have row : (x * 4 + y) % 4 = y := by
      have low := List.mem_range.mp inside
      omega
    refine ⟨x * 4 + y, ?_, by rw [column, row]⟩
    rw [row]
    have width := List.mem_range.mp below
    have low := List.mem_range.mp inside
    omega
  · rintro ⟨i, ⟨row, inside⟩, rfl⟩
    have place : i / 4 * 4 + i % 4 = i := Nat.div_add_mod' i 4
    refine ⟨i / 4, List.mem_range.mpr (by omega), ?_⟩
    exact List.mem_map.mpr ⟨i % 4, List.mem_range.mpr row, by rw [place]⟩

section Logo
variable {buf : List UInt8}

theorem length_logo (size : buf.length = framebufferSize) :
    (logoWrites.foldl Write.apply buf).length = framebufferSize :=
  (Write.foldl_single logo_single
    fun _ covered => Nat.lt_of_lt_of_eq covered.2 size.symm).1.trans size

theorem getElem?_logo (size : buf.length = framebufferSize) (i : Nat) :
    (logoWrites.foldl Write.apply buf)[i]? =
      if i % 4 < 3 ∧ i < 512 then some (displayLogo.getD (i / 4 * 3 + i % 4) 0) else buf[i]? :=
  (Write.foldl_single logo_single
    fun _ covered => Nat.lt_of_lt_of_eq covered.2 size.symm).2 i

end Logo

section Primitives
variable (past : Nat → UInt8)

def displaySetLine (row : Fin 4) (line : Option (List UInt8)) (s : Screen) : Screen :=
  if s.initialized then
    { s with
      buffer := (setRow past row line).apply s.buffer
      size := length_setRow s.size row.isLt }
  else s

def displayDrawLogo (s : Screen) : Screen :=
  if s.initialized then
    { s with
      buffer := logoWrites.foldl Write.apply s.buffer
      size := length_logo s.size }
  else s

end Primitives

/-! ### The draws -/

/-- A call of `display_set_line` or `display_draw_logo`, by the part of the code that makes it. -/
inductive Draw where
  | status (line : Option (List UInt8))
  | menu (row : Fin 3) (line : Option (List UInt8))
  | logo

namespace Draw

def isStatus : Draw → Bool
  | .status _ => true
  | .menu _ _ | .logo => false

def draw (past : Nat → UInt8) (s : Screen) : Draw → Screen
  | .status line => displaySetLine past 3 line s
  | .menu row line => displaySetLine past row.castSucc line s
  | .logo => displayDrawLogo s

/-- The bytes that a draw sets. -/
def covers (i : Nat) : Draw → Bool
  | .status _ => i % 4 = 3 ∧ i < 512
  | .menu row _ => i % 4 = row ∧ i < 512
  | .logo => i % 4 < 3 ∧ i < 512

/-- What it sets them to, whatever was there before. -/
def byte (past : Nat → UInt8) (i : Nat) : Draw → UInt8
  | .status line | .menu _ line => columnByte past line (i / 4)
  | .logo => displayLogo.getD (i / 4 * 3 + i % 4) 0

variable {past : Nat → UInt8} {s : Screen}

theorem draw_initialized (d : Draw) : (d.draw past s).initialized = s.initialized := by
  cases d with
  | status line | menu row line =>
      simp only [draw, displaySetLine]
      split <;> rfl
  | logo =>
      simp only [draw, displayDrawLogo]
      split <;> rfl

theorem draw_off (off : s.initialized = false) (d : Draw) : d.draw past s = s := by
  have not : ¬ s.initialized = true := Bool.eq_false_iff.mp off
  cases d with
  | status line | menu row line => exact if_neg not
  | logo => exact if_neg not

theorem getElem?_draw (on : s.initialized = true) (d : Draw) (i : Nat) :
    (d.draw past s).buffer[i]? = if d.covers i then some (d.byte past i) else s.buffer[i]? := by
  cases d with
  | status line =>
      simp only [draw, displaySetLine, if_pos on, covers, decide_eq_true_eq]
      exact getElem?_setRow s.size (by decide) i
  | menu row line =>
      simp only [draw, displaySetLine, if_pos on, covers, decide_eq_true_eq]
      exact getElem?_setRow s.size row.castSucc.isLt i
  | logo =>
      simp only [draw, displayDrawLogo, if_pos on, covers, decide_eq_true_eq]
      exact getElem?_logo s.size i

theorem covers_status {d : Draw} (status : d.isStatus = true) (i : Nat) :
    d.covers i = decide (i % 4 = 3 ∧ i < 512) := by
  cases d with
  | status line => rfl
  | menu row line => cases status
  | logo => cases status

theorem covers_picture {d : Draw} (picture : d.isStatus = false) {i : Nat}
    (covered : d.covers i = true) : i % 4 ≠ 3 := by
  cases d with
  | status line => cases picture
  | menu row line =>
      have here := of_decide_eq_true covered
      have low := row.isLt
      omega
  | logo =>
      have here := of_decide_eq_true covered
      omega

end Draw

/-! ### The status line and the menu -/

structure Status where
  locked : Bool
  probing : Bool
  latency : Option UInt32
  probeType : ProbeType

namespace Status

def name (st : Status) : List UInt8 :=
  match st.probeType with
  | .nx => ascii "Switch"
  | .ps3 => ascii "PS3"
  | .ps4 => ascii "PS4"

/-- The latency as `snprintf` formats it. -/
def latencyText (st : Status) : List UInt8 :=
  match st.latency with
  | none => ascii " ???us"
  | some us => (decimal us.toNat).chars.leftpad 4 0x20 ++ ascii "us"

/-- Where `LOCKED` goes. -/
def lockedAt (st : Status) : Nat :=
  match st.probeType with
  | .nx => if st.probing then 8 else 9
  | .ps3 | .ps4 => 7

/-- What is written into the buffer of the line. The bound of seven bytes is that of `snprintf`,
with the terminating byte. -/
def writes (st : Status) : List (Write UInt8) :=
  ⟨0, List.replicate displayWidth 0x20⟩ :: ⟨0, st.name⟩ ::
    (if st.probing then [⟨st.name.length, ascii "?"⟩] else []) ++
    (if st.locked then [⟨st.lockedAt, ascii "LOCKED"⟩] else []) ++
    [⟨15, st.latencyText.take 6 ++ [0]⟩, ⟨displayWidth, [0]⟩]

end Status

/-- `display_draw_status_line`; `buf` is what its stack held before. -/
def statusLine (st : Status) (buf : List UInt8) : List UInt8 := st.writes.foldl Write.apply buf

/-- The draws of `menu_draw`, unless it reads past the items. -/
def menuDraw (b : Board) (d : Device) (t : TextSources) (bufs : Fin 3 → List UInt8) :
    Option (List Draw) :=
  if d.menu.menuOpened then
    (List.finRange 3).mapM fun row =>
      (menuLine b d t (bufs row) row).map (Draw.menu row)
  else some [.logo]

/-- The logo, or a line for every row of the menu. -/
def Repaints (draws : List Draw) : Prop :=
  Draw.logo ∈ draws ∨ ∀ row : Fin 3, ∃ line, Draw.menu row line ∈ draws

theorem Repaints.covers {draws : List Draw} (repaints : Repaints draws) {i : Nat}
    (row : i % 4 ≠ 3) (inside : i < 512) : ∃ draw ∈ draws, draw.covers i = true := by
  have above : i % 4 < 3 := by omega
  rcases repaints with logo | rows
  · exact ⟨.logo, logo, decide_eq_true ⟨above, inside⟩⟩
  · obtain ⟨line, member⟩ := rows ⟨i % 4, above⟩
    exact ⟨.menu ⟨i % 4, above⟩ line, member, decide_eq_true ⟨rfl, inside⟩⟩

/-- The items that are read are there whenever the menu is windowed. -/
theorem menuDraw_repaints {b : Board} {d : Device} (windowed : Windowed b d) (t : TextSources)
    (bufs : Fin 3 → List UInt8) :
    ∃ draws, menuDraw b d t bufs = some draws ∧ Repaints draws := by
  have line (row : Fin 3) : ∃ line, menuLine b d t (bufs row) row = some line := by
    unfold menuLine
    split
    · rename_i filled
      have inside := windowed.window.row row.isLt filled
      rw [List.getElem?_eq_getElem inside]
      exact ⟨_, rfl⟩
    · exact ⟨_, rfl⟩
  choose lines is using line
  have drawn (rows : List (Fin 3)) :
      (rows.mapM fun row => (menuLine b d t (bufs row) row).map (Draw.menu row)) =
        some (rows.map fun row => .menu row (lines row)) := by
    induction rows with
    | nil => rfl
    | cons row rows ih =>
        rw [List.mapM_cons, is row, ih]
        rfl
  unfold menuDraw
  split
  · refine ⟨_, drawn _, Or.inr fun row => ⟨lines row, ?_⟩⟩
    exact List.mem_map.mpr ⟨row, List.mem_finRange row, rfl⟩
  · exact ⟨_, rfl, Or.inl (List.mem_singleton_self _)⟩

theorem Status.writes_stop (st : Status) :
    ∀ write ∈ st.writes, write.stop ≤ displayWidth + 1 := by
  have name : st.name.length ≤ 6 := by
    unfold Status.name
    split <;> decide
  have lockedAt : st.lockedAt ≤ 9 := by
    unfold Status.lockedAt
    split
    · split <;> decide
    · decide
    · decide
  have width : displayWidth = 21 := rfl
  have question : (ascii "?").length = 1 := rfl
  have locked : (ascii "LOCKED").length = 6 := rfl
  intro write member
  simp only [Status.writes, List.cons_append, List.mem_cons, List.mem_append,
    List.mem_ite_nil_right, List.not_mem_nil, or_false] at member
  rcases member with rfl | rfl | (⟨-, rfl⟩ | ⟨-, rfl⟩) | rfl | rfl
  · simp only [Write.stop, List.length_replicate]
    omega
  · simp only [Write.stop]
    omega
  · simp only [Write.stop]
    omega
  · simp only [Write.stop]
    omega
  · simp only [Write.stop, List.length_append, List.length_take, List.length_singleton]
    omega
  · simp only [Write.stop, List.length_singleton]
    omega

/-- Nothing of the stack is left in the line. -/
theorem statusLine_eq (st : Status) {buf buf' : List UInt8} (size : buf.length = displayWidth + 1)
    (size' : buf'.length = displayWidth + 1) : statusLine st buf = statusLine st buf' := by
  have width : displayWidth = 21 := rfl
  have covered (i : Nat) (inside : i < displayWidth + 1) :
      (Write.last st.writes i).isSome = true := by
    rw [Write.isSome_last, List.any_eq_true]
    by_cases text : i < displayWidth
    · refine ⟨⟨0, List.replicate displayWidth 0x20⟩, List.mem_cons_self, ?_⟩
      rw [Write.covers_iff, List.length_replicate]
      exact ⟨Nat.zero_le i, by rwa [Nat.zero_add]⟩
    · refine ⟨⟨displayWidth, [0]⟩, ?_, ?_⟩
      · exact List.mem_append_right _ (List.mem_cons_of_mem _ (List.mem_singleton_self _))
      · rw [Write.covers_iff, List.length_singleton]
        exact ⟨Nat.le_of_not_lt text, inside⟩
  have stop := st.writes_stop
  have before := @Write.foldl_apply _ buf st.writes (by rwa [size])
  have before' := @Write.foldl_apply _ buf' st.writes (by rwa [size'])
  apply List.ext_getElem?
  intro i
  rw [statusLine, statusLine, before.2, before'.2]
  by_cases inside : i < displayWidth + 1
  · rw [if_pos (covered i inside), if_pos (covered i inside)]
  · rw [List.getElem?_eq_none (by omega), List.getElem?_eq_none (by omega)]

/-! ### The framebuffer after any draws -/

section Draws
variable {past : Nat → UInt8}

def lastStatus (draws : List Draw) : Option Draw := draws.reverse.find? Draw.isStatus

theorem run_off {s : Screen} (off : s.initialized = false) (draws : List Draw) :
    run (Draw.draw past) s draws = s :=
  run_still (fun draw => Draw.draw_off off draw) draws

/-- Every byte is of the last draw that covers it. -/
theorem getElem?_run {s : Screen} (on : s.initialized = true) (draws : List Draw) (i : Nat) :
    (run (Draw.draw past) s draws).buffer[i]? =
      ((draws.reverse.find? (Draw.covers i)).map fun d => some (d.byte past i)).getD s.buffer[i]? :=
  @read_run _ _ _ _ (fun s : Screen => s.initialized = true) (fun s : Screen => s.buffer[i]?) _ _
    (fun _ d on => (Draw.draw_initialized d).trans on)
    (fun _ d on => Draw.getElem?_draw on d i) _ on draws

/-- A byte that some draw covers does not depend on the picture before. -/
theorem run_fresh {s s' : Screen} (on : s.initialized = true) (on' : s'.initialized = true)
    {draws : List Draw} {i : Nat} (covered : i < 512 → ∃ d ∈ draws, d.covers i = true) :
    (run (Draw.draw past) s draws).buffer[i]? = (run (Draw.draw past) s' draws).buffer[i]? := by
  by_cases inside : i < 512
  · have found : (draws.reverse.find? (Draw.covers i)).isSome = true := by
      obtain ⟨d, member, covers⟩ := covered inside
      rw [List.find?_isSome]
      exact ⟨d, List.mem_reverse.mpr member, covers⟩
    obtain ⟨d, is⟩ := Option.isSome_iff_exists.mp found
    rw [getElem?_run on, getElem?_run on', is]
    rfl
  · rw [Screen.buffer_behind _ inside, Screen.buffer_behind _ inside]

theorem Draw.covers_bottom {i : Nat} (row : i % 4 = 3) (inside : i < 512) :
    Draw.covers i = Draw.isStatus := by
  funext d
  cases status : d.isStatus with
  | true => rw [covers_status status, decide_eq_true ⟨row, inside⟩]
  | false =>
      apply Bool.eq_false_iff.mpr
      intro covered
      exact covers_picture status covered row

theorem run_status_row (s : Screen) (draws : List Draw) {i : Nat} (row : i % 4 = 3) :
    (run (Draw.draw past) s draws).buffer[i]? =
      (run (Draw.draw past) s (lastStatus draws).toList).buffer[i]? := by
  cases on : s.initialized with
  | false => rw [run_off on, run_off on]
  | true =>
      by_cases inside : i < 512
      · rw [getElem?_run on, getElem?_run on, Draw.covers_bottom row inside]
        change ((lastStatus draws).map _).getD _ = _
        cases last : lastStatus draws with
        | none => rfl
        | some d =>
            have status : d.isStatus = true :=
              List.find?_some (p := Draw.isStatus) last
            rw [Option.toList_some, List.reverse_singleton, List.find?_singleton, if_pos status]
      · rw [Screen.buffer_behind _ inside, Screen.buffer_behind _ inside]

theorem run_picture_rows (s : Screen) (draws : List Draw) {i : Nat} (row : i % 4 ≠ 3) :
    (run (Draw.draw past) s draws).buffer[i]? =
      (run (Draw.draw past) s (draws.filter fun d => !d.isStatus)).buffer[i]? := by
  cases on : s.initialized with
  | false => rw [run_off on, run_off on]
  | true =>
      refine @read_run_filter _ _ _ _ (fun s : Screen => s.initialized = true)
        (fun s : Screen => s.buffer[i]?) _ _
        (fun _ d on => (Draw.draw_initialized d).trans on)
        (fun _ d on => Draw.getElem?_draw on d i) _ ?_ _ on draws
      intro d covered
      cases status : d.isStatus with
      | false => rfl
      | true =>
          rw [Draw.covers_status status] at covered
          exact absurd (of_decide_eq_true covered).1 row

theorem draw_comm (s : Screen) {status picture : Draw} (below : status.isStatus = true)
    (above : picture.isStatus = false) :
    picture.draw past (status.draw past s) = status.draw past (picture.draw past s) := by
  cases on : s.initialized with
  | false => simp only [Draw.draw_off on]
  | true =>
      have on₁ := (@Draw.draw_initialized past s status).trans on
      have on₂ := (@Draw.draw_initialized past s picture).trans on
      apply Screen.ext
      · exact (picture.draw_initialized.trans on₁).trans (status.draw_initialized.trans on₂).symm
      · apply List.ext_getElem?
        intro i
        rw [Draw.getElem?_draw on₁, Draw.getElem?_draw on₂, Draw.getElem?_draw on,
          Draw.getElem?_draw on, Draw.covers_status below]
        by_cases row : i % 4 = 3 ∧ i < 512
        · have outside : ¬ picture.covers i = true := fun covered =>
            Draw.covers_picture above covered row.1
          rw [if_neg outside, if_neg outside]
        · rw [decide_eq_false row, if_neg Bool.false_ne_true, if_neg Bool.false_ne_true]

end Draws

/-- Whatever is drawn, the last row shows the last status line and the rows above it are of the
menu and the logo only. -/
structure RowsApart (past : Nat → UInt8) : Prop where
  statusRow : ∀ (s : Screen) (draws : List Draw) (i : Nat), i % 4 = 3 →
    (run (Draw.draw past) s draws).buffer[i]? =
      (run (Draw.draw past) s (lastStatus draws).toList).buffer[i]?
  /-- The screen that a status line is drawn on leaves nothing in its row. -/
  statusFresh : ∀ s s' : Screen, s.initialized = true → s'.initialized = true →
    ∀ (line : Option (List UInt8)) (i : Nat), i % 4 = 3 →
      ((Draw.status line).draw past s).buffer[i]? = ((Draw.status line).draw past s').buffer[i]?
  statusText : ∀ (st : Status) (buf buf' : List UInt8), buf.length = displayWidth + 1 →
    buf'.length = displayWidth + 1 → statusLine st buf = statusLine st buf'
  pictureRows : ∀ (s : Screen) (draws : List Draw) (i : Nat), i % 4 ≠ 3 →
    (run (Draw.draw past) s draws).buffer[i]? =
      (run (Draw.draw past) s (draws.filter fun d => !d.isStatus)).buffer[i]?
  /-- Nor does the screen that the menu or the logo is drawn on, in the other rows. -/
  pictureFresh : ∀ s s' : Screen, s.initialized = true → s'.initialized = true →
    ∀ draws : List Draw, Repaints draws → ∀ i, i % 4 ≠ 3 →
      (run (Draw.draw past) s draws).buffer[i]? = (run (Draw.draw past) s' draws).buffer[i]?
  menuRepaints : ∀ (b : Board) (d₀ : Device) (es : List MenuEvent) (t : TextSources)
    (bufs : Fin 3 → List UInt8), ∃ draws,
      menuDraw b (run (menuEventStep b) (menuInit b d₀) es) t bufs = some draws ∧ Repaints draws
  exchange : ∀ (s : Screen) (before after : List Draw) (status picture : Draw),
    status.isStatus = true → picture.isStatus = false →
      run (Draw.draw past) s (before ++ status :: picture :: after) =
        run (Draw.draw past) s (before ++ picture :: status :: after)

theorem status_and_menu_apart (past : Nat → UInt8) : RowsApart past where
  statusRow := fun s draws _ row => run_status_row s draws row
  statusFresh := by
    intro s s' on on' line i row
    refine @run_fresh past s s' on on' [.status line] i fun inside => ?_
    exact ⟨.status line, List.mem_singleton_self _, decide_eq_true ⟨row, inside⟩⟩
  statusText := fun st _ _ size size' => statusLine_eq st size size'
  pictureRows := fun s draws _ row => run_picture_rows s draws row
  pictureFresh := by
    intro s s' on on' draws repaints i row
    exact run_fresh on on' (repaints.covers row)
  menuRepaints := by
    intro b d₀ es t bufs
    exact menuDraw_repaints (reached_windowed b d₀ es) t bufs
  exchange := by
    intro s before after status picture below above
    rw [run_append, run_append, run_cons, run_cons, run_cons, run_cons, draw_comm _ below above]

end PassingLink.Display
