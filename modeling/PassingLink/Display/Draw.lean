import PassingLink.Display.Text

/-! `menu_draw` on the items that there are: which text every row of the open menu gets. -/
namespace PassingLink.Display
open Input Lib

/-- What the texts depend on besides the state of the inputs. -/
structure TextSources where
  versionString : CString
  hidReportDelayTicks : UInt32

/-! ### The names of the options -/

def getSelectedOption (d : Device) : RadioMenu → Nat
  | .socd x =>
      match if x then d.socdTypeX else d.socdTypeY with
      | .neutral => 0
      | .last => 1
      | .negative => 2
      | .positive => 3
  | .outputMode =>
      match d.outputMode with
      | .modeDpad => 0
      | .modeLs => 1
      | .modeRs => 2
  | .profile => d.activeProfileIdx

def profileNames (b : Board) : List CString :=
  if b.display then
    [⟨ascii "Default", by decide⟩, ⟨ascii "Dashblock", by decide⟩, ⟨ascii "Tigerknee", by decide⟩]
  else [⟨ascii "Default", by decide⟩]

def unreachableOption : CString := ⟨ascii "unreachable", by decide⟩

/-- The names of the profiles are read without a check; there is none past the last one. -/
def getOptionName (b : Board) (index : Nat) : RadioMenu → Option CString
  | .socd x =>
      match index with
      | 0 => some ⟨ascii "Neutral", by decide⟩
      | 1 => some ⟨ascii "Last wins", by decide⟩
      | 2 => some (if x then ⟨ascii "Left wins", by decide⟩ else ⟨ascii "Up wins", by decide⟩)
      | 3 => some (if x then ⟨ascii "Right wins", by decide⟩ else ⟨ascii "Down wins", by decide⟩)
      | _ => some unreachableOption
  | .outputMode =>
      match index with
      | 0 => some ⟨ascii "DPad", by decide⟩
      | 1 => some ⟨ascii "Left stick", by decide⟩
      | 2 => some ⟨ascii "Right stick", by decide⟩
      | _ => some unreachableOption
  | .profile => (profileNames b)[index]?

def radioName : RadioMenu → CString
  | .socd true => ⟨ascii "X axis", by decide⟩
  | .socd false => ⟨ascii "Y axis", by decide⟩
  | .outputMode => ⟨ascii "Mode", by decide⟩
  | .profile => ⟨ascii "Profile", by decide⟩

/-- Every item with its class and the strings it is constructed with. -/
def itemOf (b : Board) (d : Device) (t : TextSources) : MenuBase → Item
  | .root => .menu (some ⟨ascii "Main menu", by decide⟩)
  | .lock => .actionItem (some ⟨ascii "Lock", by decide⟩)
  | .unlock => .actionItem (some ⟨ascii "Unlock", by decide⟩)
  | .output => .menu (some ⟨ascii "Output", by decide⟩)
  | .settings => .menu (some ⟨ascii "Settings", by decide⟩)
  | .about => .menu (some ⟨ascii "About", by decide⟩)
  | .radio menu =>
      .radioMenu (some (radioName menu)) (getOptionName b (getSelectedOption d menu) menu)
  | .radioItem parent index =>
      .radioMenuItem (getSelectedOption d parent = index) (getOptionName b index parent)
  | .socd => .socdMenu d.socdTypeX d.socdTypeY
  | .usbDelay => .menu (some ⟨ascii "USB timing", by decide⟩)
  | .delay => .dynamicTextItem (some ⟨ascii "Delay: ", by decide⟩) t.hidReportDelayTicks
  | .increase => .actionItem (some ⟨ascii "Increase", by decide⟩)
  | .decrease => .actionItem (some ⟨ascii "Decrease", by decide⟩)
  | .remember => .actionItem (some ⟨ascii "Menu loc: remember", by decide⟩)
  | .forget => .actionItem (some ⟨ascii "Menu loc: forget", by decide⟩)
  | .dfu => .actionItem (some ⟨ascii "Firmware update", by decide⟩)
  | .version => .menu (some ⟨ascii "Version", by decide⟩)
  | .versionRow row => .expandedTextItem (if row = 0 then some t.versionString else none)

/-- The line of a row of the screen with the open menu: the buffer that is handed on, or a null
pointer. The item of a row is read from `menu_items` without a check. -/
def menuLine (b : Board) (d : Device) (t : TextSources) (buf : List UInt8) (row : Nat) :
    Option (Option (List UInt8)) :=
  if row < d.menu.items.length then
    (d.menu.items[d.menu.scrollIndex + row]?).map fun item =>
      some (drawItem (itemOf b d t item) (d.menu.scrollIndex + row = d.menu.selectedIndex) buf)
  else some none

/-! ### Which lines are complete -/

/-- Neither "SOCD: (Right, …)" with four more letters nor a delay of six digits. -/
def LineFits (d : Device) (t : TextSources) : MenuBase → Prop
  | .socd => ¬ (d.socdTypeX = .positive ∧ d.socdTypeY ≠ .negative)
  | .delay => t.hidReportDelayTicks.toNat < 100000
  | _ => True

theorem length_socdText (x y : SOCDType) :
    (socdText x y).length < 19 ↔ ¬ (x = .positive ∧ y ≠ .negative) := by
  cases x <;> cases y <;> decide

theorem length_ticksText (ticks : UInt32) :
    (CString.length ⟨ascii "Delay: ", by decide⟩) + (ticksText ticks).length < 19 ↔
      ticks.toNat < 100000 := by
  have digits : (decimal ticks.toNat).length = (Nat.toDigits 10 ticks.toNat).length :=
    List.length_map _
  have heading : CString.length ⟨ascii "Delay: ", by decide⟩ = 7 := by decide
  have unit : CString.length ⟨ascii " ticks", by decide⟩ = 6 := by decide
  have few := @Nat.length_toDigits_le_iff 10 ticks.toNat 5 (by decide) (by decide)
  rw [ticksText, CString.length_append, digits, heading, unit]
  omega

theorem lineFits_iff (b : Board) (d : Device) (t : TextSources) (item : MenuBase)
    (selected : Bool) :
    ((itemOf b d t item).formatted = true → (itemOf b d t item).fullText.length <
      displayWidth - (caret (itemOf b d t item) selected).length) ↔ LineFits d t item := by
  cases item with
  | socd =>
      have columns : displayWidth - (caret (itemOf b d t .socd) selected).length = 19 := by
        rw [length_caret]
        rfl
      rw [columns]
      exact (forall_prop_of_true rfl).trans (length_socdText d.socdTypeX d.socdTypeY)
  | delay =>
      have columns : displayWidth - (caret (itemOf b d t .delay) selected).length = 19 := by
        rw [length_caret]
        rfl
      have whole : (itemOf b d t .delay).fullText.length =
          CString.length ⟨ascii "Delay: ", by decide⟩ + (ticksText t.hidReportDelayTicks).length :=
        CString.length_append _ _
      rw [columns, whole]
      exact (forall_prop_of_true rfl).trans (length_ticksText t.hidReportDelayTicks)
  | _ =>
      apply iff_of_true _ trivial
      intro formatted
      cases formatted

/-- Every row of the open menu shows the text of its item, or nothing below the last item. -/
structure MenuDrawn (b : Board) (d : Device) (t : TextSources) (buf : List UInt8) : Prop where
  rows : ∀ row < displayRows, row < d.menu.items.length →
    ∃ item, d.menu.items[d.menu.scrollIndex + row]? = some item ∧
      RowDrawn (itemOf b d t item) (d.menu.scrollIndex + row = d.menu.selectedIndex) buf
  empty : ∀ row < displayRows, d.menu.items.length ≤ row → menuLine b d t buf row = some none

/-- No item whose line does not fit is on the screen. -/
def ScreenFits (d : Device) (t : TextSources) : Prop :=
  ∀ row < displayRows, row < d.menu.items.length → ∀ item,
    d.menu.items[d.menu.scrollIndex + row]? = some item → LineFits d t item

theorem menuDrawn_iff {b : Board} {d : Device} (windowed : Windowed b d) (t : TextSources)
    {buf : List UInt8} (size : buf.length = displayWidth + 1) :
    MenuDrawn b d t buf ↔ ScreenFits d t := by
  constructor
  · rintro ⟨rows, -⟩ row visible filled item shown
    obtain ⟨item', is, drawn⟩ := rows row visible filled
    obtain rfl : item' = item := Option.some.inj (is.symm.trans shown)
    exact (lineFits_iff b d t item' _).mp ((row_drawn_iff size).mp drawn)
  · intro fits
    constructor
    · intro row visible filled
      have inside := windowed.window.row visible filled
      have shown := List.getElem?_eq_getElem inside
      refine ⟨_, shown, (row_drawn_iff size).mpr ?_⟩
      exact (lineFits_iff b d t _ _).mpr (fits row visible filled _ shown)
    · intro row _ below
      exact if_neg (Nat.not_lt.mpr below)

/-- `render_text` of every item with every string meets what `menu_draw` relies on, but for
`snprintf` without room for its terminating byte; so after any history the screen is complete
exactly if no such text is on it. -/
theorem menu_text_iff (item : Item) (span : List UInt8) (b : Board) (d₀ : Device)
    (es : List MenuEvent) (t : TextSources) (buf : List UInt8) :
    (item.Renders span ↔ (item.formatted = true → item.fullText.length < span.length)) ∧
    ((run (menuEventStep b) (menuInit b d₀) es).menu.menuOpened = true →
      buf.length = displayWidth + 1 →
        (MenuDrawn b (run (menuEventStep b) (menuInit b d₀) es) t buf ↔
          ScreenFits (run (menuEventStep b) (menuInit b d₀) es) t)) := by
  constructor
  · exact renders_iff item span
  · intro _ size
    exact menuDrawn_iff (reached_windowed b d₀ es) t size

def exampleSources : TextSources := ⟨⟨ascii "v1.0", by decide⟩, 22⟩

def menuEvents (calls : List MenuCall) : List MenuEvent := calls.map .call

/-- The main menu, when it is opened for the first time. -/
theorem main_menu_drawn :
    MenuDrawn microdash (run (menuEventStep microdash)
        (menuInit microdash (Device.boot microdash)) (menuEvents [.openMenu])) exampleSources
      (List.replicate 22 0xa5) ↔
    ScreenFits (run (menuEventStep microdash) (menuInit microdash (Device.boot microdash))
      (menuEvents [.openMenu])) exampleSources :=
  (menu_text_iff (.menu none) [] microdash (Device.boot microdash) (menuEvents [.openMenu])
    exampleSources _).2 rfl rfl

/-- Into the SOCD menu, where the X axis is set to "Right wins" and the Y axis to "Neutral", and
back to the output menu. -/
def toRightZero : List MenuInput :=
  [.down, .right, .down, .down, .right, .right, .down, .down, .down, .right, .left, .down, .right,
    .right, .left, .left]

/-- The line is `SOCD: (Right, Zero` then. -/
theorem socd_line_cut :
    ¬ ∀ (b : Board) (d₀ : Device) (es : List MenuEvent) (t : TextSources) (buf : List UInt8),
      (run (menuEventStep b) (menuInit b d₀) es).menu.menuOpened = true →
        buf.length = displayWidth + 1 →
          MenuDrawn b (run (menuEventStep b) (menuInit b d₀) es) t buf := by
  intro all
  have drawn := all microdash (Device.boot microdash)
    (menuEvents (.openMenu :: toRightZero.map .input)) exampleSources (List.replicate 22 0xa5)
    (by decide) rfl
  have windowed := reached_windowed microdash (Device.boot microdash)
    (menuEvents (.openMenu :: toRightZero.map .input))
  have fits := (menuDrawn_iff windowed exampleSources rfl).mp drawn
  exact fits 2 (by decide) (by decide) .socd (by decide) (by decide)

end PassingLink.Display
