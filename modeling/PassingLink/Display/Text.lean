import PassingLink.Display.Location
import PassingLink.Lib.Text

/-! The texts of the menu: what `render_text` of every item writes into the span it is given,
and what `menu_draw` makes of it. -/
namespace PassingLink.Display
open Input Lib

def displayWidth : Nat := 21

def ascii (s : String) : List UInt8 := s.toList.map fun c => UInt8.ofNat c.toNat

/-! ### The items -/

/-- The classes of `menu.cpp`, with the strings and the state that their texts depend on. A null
pointer is `none`. -/
inductive Item where
  /-- `Menu`, and the classes derived from it that have no `render_text` of their own. -/
  | menu (name : Option CString)
  | textItem (heading value : Option CString)
  /-- The function of the item is `usb_delay_print`. -/
  | dynamicTextItem (heading : Option CString) (ticks : UInt32)
  | expandedTextItem (text : Option CString)
  | actionItem (name : Option CString)
  | radioMenuItem (selected : Bool) (option : Option CString)
  | radioMenu (name : Option CString) (option : Option CString)
  | socdMenu (x y : SOCDType)

def copyText : Option CString → Printer
  | none => fun buf => (0, buf)
  | some str => Printer.copy str.chars

/-- `%s` with one of the strings of `SOCDMenu::render_text`. -/
def socdX : SOCDType → CString
  | .positive => ⟨ascii "Right", by decide⟩
  | .negative => ⟨ascii "Left", by decide⟩
  | .neutral => ⟨ascii "Zero", by decide⟩
  | .last => ⟨ascii "Last", by decide⟩

def socdY : SOCDType → CString
  | .positive => ⟨ascii "Down", by decide⟩
  | .negative => ⟨ascii "Up", by decide⟩
  | .neutral => ⟨ascii "Zero", by decide⟩
  | .last => ⟨ascii "Last", by decide⟩

def socdText (x y : SOCDType) : CString :=
  ⟨ascii "SOCD: (", by decide⟩ ++ socdX x ++ ⟨ascii ", ", by decide⟩ ++ socdY y ++
    ⟨ascii ")", by decide⟩

/-- `%u` -/
def decimal (n : Nat) : CString where
  chars := (Nat.toDigits 10 n).map fun c => UInt8.ofNat c.toNat
  terminated := by
    intro zero
    obtain ⟨c, member, is⟩ := List.mem_map.mp zero
    have digit := Nat.isDigit_of_mem_toDigits (by decide) (by decide) member
    rw [Char.isDigit, Bool.and_eq_true, decide_eq_true_iff, decide_eq_true_iff] at digit
    have low : 48 ≤ c.toNat := UInt32.le_iff_toNat_le.mp digit.1
    have high : c.toNat ≤ 57 := UInt32.le_iff_toNat_le.mp digit.2
    have value := congrArg UInt8.toNat is
    rw [UInt8.toNat_ofNat', UInt8.toNat_zero, Nat.mod_eq_of_lt (by omega)] at value
    omega

def ticksText (ticks : UInt32) : CString := decimal ticks.toNat ++ ⟨ascii " ticks", by decide⟩

def usbDelayPrint (ticks : UInt32) : Printer := Printer.snprintf (ticksText ticks).chars

def colon : CString := ⟨ascii ": ", by decide⟩

def mark (selected : Bool) : CString :=
  if selected then ⟨ascii "[*] ", by decide⟩ else ⟨ascii "[ ] ", by decide⟩

namespace Item

def renderText : Item → Printer
  | .menu name | .actionItem name => copyText name
  | .expandedTextItem text => copyText text
  | .textItem heading value =>
      ((copyText heading).andThen (copyText (some colon))).andThen (copyText value)
  | .dynamicTextItem heading ticks => (copyText heading).andThen (usbDelayPrint ticks)
  | .radioMenuItem selected option => (copyText (some (mark selected))).andThen (copyText option)
  | .radioMenu name option =>
      ((copyText name).andThen (copyText (some colon))).andThen (copyText option)
  | .socdMenu x y => Printer.snprintf (socdText x y).chars

def showCaret : Item → Bool
  | .expandedTextItem _ => false
  | _ => true

/-- The text of an item, were there room for all of it. A null pointer has none. -/
def fullText : Item → CString
  | .menu name | .actionItem name => name.getD .empty
  | .expandedTextItem text => text.getD .empty
  | .textItem heading value => heading.getD .empty ++ colon ++ value.getD .empty
  | .dynamicTextItem heading ticks => heading.getD .empty ++ ticksText ticks
  | .radioMenuItem selected option => mark selected ++ option.getD .empty
  | .radioMenu name option => name.getD .empty ++ colon ++ option.getD .empty
  | .socdMenu x y => socdText x y

/-- The items whose text ends with what `snprintf` has written. -/
def formatted : Item → Bool
  | .dynamicTextItem _ _ | .socdMenu _ _ => true
  | _ => false

def Renders (item : Item) (buf : List UInt8) : Prop :=
  Cuts item.fullText.chars buf (item.renderText buf)

end Item

/-! ### How the items render -/

theorem copyText_cuts (str : Option CString) (buf : List UInt8) :
    Cuts (str.getD .empty).chars buf (copyText str buf) := by
  cases str with
  | none => exact ⟨(Nat.zero_min _).symm, List.take_nil.symm, rfl⟩
  | some str => exact Printer.copy_cuts str.chars buf

theorem copyText_colon_cuts (name option : Option CString) (buf : List UInt8) :
    Cuts (name.getD .empty ++ colon ++ option.getD .empty).chars buf
      (((copyText name).andThen (copyText (some colon))).andThen (copyText option) buf) :=
  Printer.andThen_cuts
    (Printer.andThen_cuts (copyText_cuts name buf) (copyText_cuts (some colon)))
    (copyText_cuts option)

theorem renders_unformatted {item : Item} (unformatted : item.formatted = false)
    (buf : List UInt8) : item.Renders buf := by
  unfold Item.Renders
  cases item with
  | menu name | actionItem name => exact copyText_cuts name buf
  | expandedTextItem text => exact copyText_cuts text buf
  | textItem heading value => exact copyText_colon_cuts heading value buf
  | radioMenu name option => exact copyText_colon_cuts name option buf
  | radioMenuItem selected option =>
      exact Printer.andThen_cuts (copyText_cuts (some (mark selected)) buf) (copyText_cuts option)
  | dynamicTextItem | socdMenu => cases unformatted

theorem ticksText_ne_nil (ticks : UInt32) : (ticksText ticks).chars ≠ [] := by
  intro nothing
  exact absurd (List.append_eq_nil_iff.mp nothing).2 (by decide)

theorem socdText_ne_nil (x y : SOCDType) : (socdText x y).chars ≠ [] := by
  cases x <;> cases y <;> decide

/-- `render_text` counts and cuts its text as `menu_draw` expects, except that `snprintf`
needs room for its terminating byte. -/
theorem renders_iff (item : Item) (buf : List UInt8) :
    item.Renders buf ↔ (item.formatted = true → item.fullText.length < buf.length) := by
  cases formatted : item.formatted with
  | false =>
      apply iff_of_true (renders_unformatted formatted buf)
      intro is
      cases is
  | true =>
      simp only [true_imp_iff]
      unfold Item.Renders
      cases item with
      | socdMenu x y => exact Printer.snprintf_cuts_iff (socdText_ne_nil x y)
      | dynamicTextItem heading ticks =>
          have first := copyText_cuts heading buf
          have second := @Printer.andThen_cuts_iff _ (ticksText ticks).chars buf (copyText heading)
            (usbDelayPrint ticks) first
          refine second.trans ?_
          refine (Printer.snprintf_cuts_iff (ticksText_ne_nil ticks)).trans ?_
          have whole : (Item.dynamicTextItem heading ticks).fullText.length =
              (heading.getD .empty).length + (ticksText ticks).length := CString.length_append _ _
          have count := first.count
          have size := first.size
          rw [CString.length_chars] at count
          rw [whole, List.length_drop]
          omega
      | _ => cases formatted

/-- No item writes past its span, whatever it returns. -/
theorem length_renderText (item : Item) (buf : List UInt8) :
    (item.renderText buf).2.length = buf.length := by
  cases formatted : item.formatted with
  | false => exact (renders_unformatted formatted buf).size
  | true =>
      cases item with
      | socdMenu x y => exact Printer.length_snprintf (socdText x y).chars buf
      | dynamicTextItem heading ticks =>
          have first := (copyText_cuts heading buf).size
          exact Printer.length_andThen first (Printer.length_snprintf (ticksText ticks).chars)
      | _ => cases formatted

/-- What is left when `snprintf` has not enough room: a count that leads past the span, or a
terminating byte at the end of it. -/
def Overflows (buf : List UInt8) (result : Nat × List UInt8) : Prop :=
  buf.length < result.1 ∨ result.1 = buf.length ∧ 0 ∈ result.2

theorem snprintf_overflows {text : CString} (written : text.chars ≠ []) {buf : List UInt8}
    (short : buf.length ≤ text.length) : Overflows buf (Printer.snprintf text.chars buf) := by
  have pos : 0 < text.length := List.length_pos_of_ne_nil written
  by_cases exact : text.length = buf.length
  · have occupied : ¬ buf.length = 0 := by omega
    refine Or.inr ⟨exact, ?_⟩
    simp only [Printer.snprintf, if_neg occupied, Printer.overwrite_start]
    apply List.mem_append_left
    exact List.mem_append_right _ (List.mem_singleton_self 0)
  · exact Or.inl (Nat.lt_of_le_of_ne short (Ne.symm exact))

theorem formatted_overflows {item : Item} (formatted : item.formatted = true) {buf : List UInt8}
    (short : buf.length ≤ item.fullText.length) : Overflows buf (item.renderText buf) := by
  cases item with
  | socdMenu x y => exact snprintf_overflows (socdText_ne_nil x y) short
  | dynamicTextItem heading ticks =>
      have whole : (Item.dynamicTextItem heading ticks).fullText.length =
          (heading.getD .empty).length + (ticksText ticks).length := CString.length_append _ _
      rw [whole] at short
      obtain ⟨count, -, size⟩ := copyText_cuts heading buf
      rw [CString.length_chars] at count
      have left : ((copyText heading buf).2.drop (copyText heading buf).1).length =
          buf.length - (copyText heading buf).1 := by
        rw [List.length_drop, size]
      have rest := @snprintf_overflows (ticksText ticks) (ticksText_ne_nil ticks)
        ((copyText heading buf).2.drop (copyText heading buf).1) (by rw [left]; omega)
      simp only [Overflows, left] at rest
      simp only [Overflows, Item.renderText, Printer.andThen, usbDelayPrint]
      rcases rest with past | ⟨exact, zero⟩
      · left
        omega
      · right
        exact ⟨by omega, List.mem_append_right _ zero⟩
  | _ => cases formatted

/-! ### `menu_draw` -/

def caret (item : Item) (selected : Bool) : List UInt8 :=
  if item.showCaret then (if selected then ascii "> " else ascii "  ") else []

/-- The buffer of a row, whose bytes are what the stack holds before. -/
def drawItem (item : Item) (selected : Bool) (buf : List UInt8) : List UInt8 :=
  let start := (caret item selected).length
  let buf := overwrite buf 0 (caret item selected)
  let (chars, output) := item.renderText ((buf.drop start).take (displayWidth - start))
  overwrite (overwrite buf start output) (start + chars) [0]

/-- The line is the caret and as much of the text as fits, and no write has left the buffer. -/
structure RowDrawn (item : Item) (selected : Bool) (buf : List UInt8) : Prop where
  line : CString.read (drawItem item selected buf) = caret item selected ++
    item.fullText.chars.take (displayWidth - (caret item selected).length)
  inside : (drawItem item selected buf).length = displayWidth + 1

section Row
variable {item : Item} {selected : Bool} {buf : List UInt8}

theorem length_caret (item : Item) (selected : Bool) :
    (caret item selected).length = if item.showCaret then 2 else 0 := by
  unfold caret
  cases item.showCaret with
  | false => rfl
  | true => cases selected <;> rfl

theorem length_caret_le : (caret item selected).length ≤ 2 := by
  rw [length_caret]
  split <;> omega

theorem caret_terminated (item : Item) (selected : Bool) : 0 ∉ caret item selected := by
  unfold caret
  cases item.showCaret with
  | false => exact List.not_mem_nil
  | true => cases selected <;> decide

/-- The span that the text of the row is written into. -/
def rowSpan (item : Item) (selected : Bool) (buf : List UInt8) : List UInt8 :=
  ((overwrite buf 0 (caret item selected)).drop (caret item selected).length).take
    (displayWidth - (caret item selected).length)

theorem length_rowSpan (size : buf.length = displayWidth + 1) :
    (rowSpan item selected buf).length = displayWidth - (caret item selected).length := by
  have width : displayWidth = 21 := rfl
  have short := @length_caret_le item selected
  rw [rowSpan, List.length_take, List.length_drop, length_overwrite (by omega), size]
  omega

/-- The row after `render_text` and before the terminating write. -/
theorem drawItem_eq (size : buf.length = displayWidth + 1) :
    ∃ last, drawItem item selected buf =
      overwrite (caret item selected ++ (item.renderText (rowSpan item selected buf)).2 ++ [last])
        ((caret item selected).length + (item.renderText (rowSpan item selected buf)).1) [0] := by
  have width : displayWidth = 21 := rfl
  have short := @length_caret_le item selected
  have kept := length_renderText item (rowSpan item selected buf)
  rw [length_rowSpan size] at kept
  have tail : (buf.drop displayWidth).length = 1 := by
    rw [List.length_drop, size]
    omega
  obtain ⟨last, is⟩ := List.length_eq_one_iff.mp tail
  refine ⟨last, ?_⟩
  have result : drawItem item selected buf =
      overwrite (overwrite (overwrite buf 0 (caret item selected)) (caret item selected).length
        (item.renderText (rowSpan item selected buf)).2)
        ((caret item selected).length + (item.renderText (rowSpan item selected buf)).1) [0] := rfl
  rw [result]
  congr 1
  have past : (caret item selected).length +
      (item.renderText (rowSpan item selected buf)).2.length = displayWidth := by omega
  have behind : (buf.drop (caret item selected).length).drop
      (displayWidth - (caret item selected).length) = buf.drop displayWidth := by
    rw [List.drop_drop]
    congr 1
    omega
  rw [Printer.overwrite_start, overwrite, past, List.take_left, List.drop_append,
    List.drop_eq_nil_of_le (by omega), List.nil_append, behind, is]

theorem row_drawn (size : buf.length = displayWidth + 1)
    (renders : item.Renders (rowSpan item selected buf)) : RowDrawn item selected buf := by
  have width : displayWidth = 21 := rfl
  have short := @length_caret_le item selected
  have span := @length_rowSpan item selected buf size
  obtain ⟨last, row⟩ := @drawItem_eq item selected buf size
  obtain ⟨count, bytes, length⟩ := renders
  rw [span] at count bytes length
  generalize item.renderText (rowSpan item selected buf) = result at row count bytes length
  obtain ⟨chars, output⟩ := result
  dsimp only at row count bytes length
  have stop : chars ≤ output.length := by omega
  have cut : (caret item selected ++ output ++ [last]).take ((caret item selected).length + chars) =
      caret item selected ++ output.take chars := by
    rw [List.append_assoc, List.take_length_add_append, List.take_append_of_le_length stop]
  constructor
  · have terminated : 0 ∉ caret item selected ++ output.take chars := by
      rw [bytes, List.mem_append]
      apply not_or_intro (caret_terminated item selected)
      exact fun zero => item.fullText.terminated (List.mem_of_mem_take zero)
    rw [row, overwrite, cut, List.append_assoc, List.singleton_append,
      CString.read_append terminated, bytes]
  · rw [row, length_overwrite]
    · simp only [List.length_append, List.length_singleton]
      omega
    · simp only [List.length_append, List.length_singleton]
      omega

theorem row_lost (size : buf.length = displayWidth + 1)
    (overflow : displayWidth - (caret item selected).length ≤ item.fullText.length)
    (overflows : Overflows (rowSpan item selected buf)
      (item.renderText (rowSpan item selected buf))) : ¬ RowDrawn item selected buf := by
  have width : displayWidth = 21 := rfl
  have short := @length_caret_le item selected
  have span := @length_rowSpan item selected buf size
  have kept := length_renderText item (rowSpan item selected buf)
  obtain ⟨last, row⟩ := @drawItem_eq item selected buf size
  rw [span] at kept
  unfold Overflows at overflows
  rw [span] at overflows
  generalize item.renderText (rowSpan item selected buf) = result at row kept overflows
  obtain ⟨chars, output⟩ := result
  dsimp only at row kept overflows
  rintro ⟨line, inside⟩
  rcases overflows with past | ⟨exact, zero⟩
  · -- The terminating write lands behind the buffer.
    rw [row] at inside
    simp only [overwrite, List.length_append, List.length_take, List.length_drop,
      List.length_singleton] at inside
    omega
  · -- The line ends at the terminating byte of `snprintf`, one character early.
    have within : 0 ∈ caret item selected ++ output := List.mem_append_right _ zero
    have cut : (caret item selected ++ output ++ [last]).take
        ((caret item selected).length + chars) = caret item selected ++ output := by
      apply List.take_left'
      rw [List.length_append]
      omega
    have shape : ∃ rest, drawItem item selected buf = caret item selected ++ output ++ rest := by
      rw [row, overwrite, cut, List.append_assoc (caret item selected ++ output)]
      exact ⟨_, rfl⟩
    obtain ⟨rest, shape⟩ := shape
    have early := CString.length_read_lt within rest
    rw [← shape, line] at early
    simp only [List.length_append, List.length_take, CString.length_chars] at early
    omega

/-- A line of the menu is the text of its item, cut to the columns there are, except for a text
from `snprintf` that fills them all. -/
theorem row_drawn_iff (size : buf.length = displayWidth + 1) :
    RowDrawn item selected buf ↔ (item.formatted = true →
      item.fullText.length < displayWidth - (caret item selected).length) := by
  have span := @length_rowSpan item selected buf size
  constructor
  · intro drawn formatted
    by_contra overflow
    have long := Nat.le_of_not_lt overflow
    exact row_lost size long (formatted_overflows formatted (by rw [span]; exact long)) drawn
  · intro fits
    rw [← span] at fits
    exact row_drawn size ((renders_iff item _).mpr fits)

end Row

end PassingLink.Display
