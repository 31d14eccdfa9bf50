import PassingLink.Display.Font
import PassingLink.Lib.Reassembly
import PassingLink.Lib.Text

/-! `Display::set_row` of `ssd1306.cpp`. The bytes of the framebuffer go down the four rows of one
column and then on to the next column. -/
namespace PassingLink.Display
open Lib

def framebufferSize : Nat := 512

/-- A read from the font, whose `past` is what lies in memory behind it. -/
def fontByte (past : Nat → UInt8) (k : Nat) : UInt8 := (font[k]?).getD (past k)

/-- `*line++`, with the null pointer that the end of the string turns into. -/
def nextCharacter : Option (List UInt8) → UInt8 × Option (List UInt8)
  | some (c :: rest) => if c ≠ 0 then (c, some rest) else (0x20, none)
  | some [] | none => (0x20, none)

/-- The indices that are read from the font, and the writes to the framebuffer, in their order. -/
structure Painted where
  reads : List Nat
  writes : List (Write UInt8)

section Painting
variable (past : Nat → UInt8) (row : Nat)

/-- What the loop does for the columns that are left. -/
def setCells : (count column : Nat) → Option (List UInt8) → Painted
  | 0, _, _ => ⟨[], []⟩
  | count + 1, column, line =>
      let pixel := column * 6 + 2
      let (character, line) := nextCharacter line
      let character := if character < 0x20 ∨ character > 0x7f then 0x20 else character
      let data := 5 * (character.toNat - 0x20)
      let rest := setCells count (column + 1) line
      { reads := (List.range 5).map (fun i => data + i) ++ rest.reads
        writes :=
          (List.range 5).map (fun i => ⟨(pixel + i) * 4 + row, [fontByte past (data + i)]⟩) ++
            -- Space between columns.
            ⟨(pixel + 5) * 4 + row, [0]⟩ :: rest.writes }

def setRow (line : Option (List UInt8)) : Painted :=
  let cells := setCells past row 21 0 line
  { reads := cells.reads
    writes := ⟨row, [0]⟩ :: ⟨row + 4, [0]⟩ :: cells.writes }

def Painted.apply (p : Painted) (buf : List UInt8) : List UInt8 := p.writes.foldl Write.apply buf

end Painting

/-! ### The picture of a line -/

/-- The characters up to the end of the string. -/
def textOf (line : Option (List UInt8)) : List UInt8 := (line.map CString.read).getD []

def HasGlyph (c : UInt8) : Prop := 0x20 ≤ c ∧ c ≤ 0x7e

instance (c : UInt8) : Decidable (HasGlyph c) := inferInstanceAs (Decidable (_ ∧ _))

/-- One of the six columns of a cell. -/
def cellByte (line : Option (List UInt8)) (c i : Nat) : UInt8 :=
  match (textOf line)[c]? with
  | some character =>
      if HasGlyph character ∧ i < 5 then font.getD (5 * (character.toNat - 0x20) + i) 0 else 0
  | none => 0

/-- Two blank columns, 21 cells and nothing else in the row; every access is in range. -/
structure RowPainted (past : Nat → UInt8) (buf : List UInt8) (row : Nat)
    (line : Option (List UInt8)) : Prop where
  margin : ∀ x < 2, ((setRow past row line).apply buf)[x * 4 + row]? = some 0
  cells : ∀ c < 21, ∀ i < 6,
    ((setRow past row line).apply buf)[(c * 6 + 2 + i) * 4 + row]? = some (cellByte line c i)
  reads : ∀ k ∈ (setRow past row line).reads, k < font.length
  writes : ∀ write ∈ (setRow past row line).writes, write.stop ≤ framebufferSize
  others : ∀ i, i % 4 ≠ row → ((setRow past row line).apply buf)[i]? = buf[i]?

/-! ### What is painted -/

/-- The character of a cell, as it is looked up in the font. -/
def shownCharacter (line : Option (List UInt8)) (c : Nat) : UInt8 :=
  let character := ((textOf line)[c]?).getD 0x20
  if character < 0x20 ∨ character > 0x7f then 0x20 else character

def shownByte (past : Nat → UInt8) (line : Option (List UInt8)) (c i : Nat) : UInt8 :=
  if i < 5 then fontByte past (5 * ((shownCharacter line c).toNat - 0x20) + i) else 0

section Loop
variable {past : Nat → UInt8} {row : Nat}

theorem nextCharacter_eq (line : Option (List UInt8)) :
    (nextCharacter line).1 = ((textOf line)[0]?).getD 0x20 ∧
      textOf (nextCharacter line).2 = (textOf line).tail := by
  unfold nextCharacter
  split
  · rename_i c rest
    by_cases ends : c ≠ 0
    · have goes : decide (c ≠ 0) = true := decide_eq_true ends
      rw [if_pos ends]
      simp only [textOf, Option.map_some, Option.getD_some, CString.read, List.takeWhile_cons,
        goes, if_true, List.getElem?_cons_zero, List.tail_cons, and_self]
    · rw [if_neg ends, Decidable.not_not.mp ends]
      exact ⟨rfl, rfl⟩
  · exact ⟨rfl, rfl⟩
  · exact ⟨rfl, rfl⟩

theorem shown_next (line : Option (List UInt8)) (c : Nat) :
    shownCharacter (nextCharacter line).2 c = shownCharacter line (c + 1) := by
  unfold shownCharacter
  rw [(nextCharacter_eq line).2, List.getElem?_tail]

theorem shown_first (line : Option (List UInt8)) :
    (if (nextCharacter line).1 < 0x20 ∨ (nextCharacter line).1 > 0x7f then 0x20
      else (nextCharacter line).1) = shownCharacter line 0 := by
  rw [(nextCharacter_eq line).1]
  rfl

theorem setCells_succ (count column : Nat) (line : Option (List UInt8)) :
    setCells past row (count + 1) column line =
      { reads := (List.range 5).map (fun i => 5 * ((shownCharacter line 0).toNat - 0x20) + i) ++
          (setCells past row count (column + 1) (nextCharacter line).2).reads
        writes := (List.range 6).map
            (fun i => ⟨(column * 6 + 2 + i) * 4 + row, [shownByte past line 0 i]⟩) ++
          (setCells past row count (column + 1) (nextCharacter line).2).writes } := by
  have last : (List.range 6).map
      (fun i => (⟨(column * 6 + 2 + i) * 4 + row, [shownByte past line 0 i]⟩ : Write UInt8)) =
      (List.range 5).map (fun i => ⟨(column * 6 + 2 + i) * 4 + row,
        [fontByte past (5 * ((shownCharacter line 0).toNat - 0x20) + i)]⟩) ++
        [⟨(column * 6 + 2 + 5) * 4 + row, [0]⟩] := rfl
  rw [last, List.append_assoc, List.singleton_append]
  simp only [setCells, shown_first]

theorem mem_reads {count column : Nat} {line : Option (List UInt8)} {k : Nat} :
    k ∈ (setCells past row count column line).reads ↔
      ∃ c < count, ∃ i < 5, k = 5 * ((shownCharacter line c).toNat - 0x20) + i := by
  induction count generalizing column line with
  | zero => simp only [setCells, List.not_mem_nil, Nat.not_lt_zero, false_and, exists_false]
  | succ count ih =>
      rw [setCells_succ, List.mem_append, ih, List.mem_map]
      constructor
      · rintro (⟨i, inside, rfl⟩ | ⟨c, below, i, inside, rfl⟩)
        · exact ⟨0, Nat.zero_lt_succ count, i, List.mem_range.mp inside, rfl⟩
        · exact ⟨c + 1, Nat.succ_lt_succ below, i, inside, by rw [shown_next]⟩
      · rintro ⟨c, below, i, inside, rfl⟩
        cases c with
        | zero => exact Or.inl ⟨i, List.mem_range.mpr inside, rfl⟩
        | succ c =>
            exact Or.inr ⟨c, Nat.lt_of_succ_lt_succ below, i, inside, by rw [shown_next]⟩

theorem mem_writes {count column : Nat} {line : Option (List UInt8)} {write : Write UInt8} :
    write ∈ (setCells past row count column line).writes ↔
      ∃ c < count, ∃ i < 6,
        write = ⟨((column + c) * 6 + 2 + i) * 4 + row, [shownByte past line c i]⟩ := by
  induction count generalizing column line with
  | zero => simp only [setCells, List.not_mem_nil, Nat.not_lt_zero, false_and, exists_false]
  | succ count ih =>
      have shift (c i : Nat) : shownByte past (nextCharacter line).2 c i =
          shownByte past line (c + 1) i := by
        rw [shownByte, shownByte, shown_next]
      have place (c : Nat) : column + 1 + c = column + (c + 1) := by omega
      rw [setCells_succ, List.mem_append, ih, List.mem_map]
      constructor
      · rintro (⟨i, inside, rfl⟩ | ⟨c, below, i, inside, rfl⟩)
        · exact ⟨0, Nat.zero_lt_succ count, i, List.mem_range.mp inside, rfl⟩
        · exact ⟨c + 1, Nat.succ_lt_succ below, i, inside, by rw [shift, place]⟩
      · rintro ⟨c, below, i, inside, rfl⟩
        cases c with
        | zero => exact Or.inl ⟨i, List.mem_range.mpr inside, rfl⟩
        | succ c =>
            exact Or.inr ⟨c, Nat.lt_of_succ_lt_succ below, i, inside, by rw [shift, place]⟩

end Loop

/-! ### The bytes of a row -/

/-- The byte of a column, and of any other row of the same column. -/
def columnByte (past : Nat → UInt8) (line : Option (List UInt8)) (x : Nat) : UInt8 :=
  if x < 2 then 0 else shownByte past line ((x - 2) / 6) ((x - 2) % 6)

section Bytes
variable {past : Nat → UInt8} {row : Nat} {line : Option (List UInt8)} {buf : List UInt8}

theorem mem_setRow {write : Write UInt8} :
    write ∈ (setRow past row line).writes ↔
      ∃ x < 128, write = ⟨x * 4 + row, [columnByte past line x]⟩ := by
  have first : columnByte past line 0 = 0 := rfl
  have second : columnByte past line 1 = 0 := rfl
  unfold setRow
  rw [List.mem_cons, List.mem_cons, mem_writes]
  constructor
  · rintro (rfl | rfl | ⟨c, below, i, inside, rfl⟩)
    · exact ⟨0, by decide, by rw [first, Nat.zero_mul, Nat.zero_add]⟩
    · exact ⟨1, by decide, by rw [second, Nat.one_mul, Nat.add_comm]⟩
    · refine ⟨c * 6 + 2 + i, by omega, ?_⟩
      have cell : (c * 6 + 2 + i - 2) / 6 = c := by omega
      have pixel : (c * 6 + 2 + i - 2) % 6 = i := by omega
      rw [columnByte, if_neg (by omega), cell, pixel, Nat.zero_add]
  · rintro ⟨x, below, rfl⟩
    by_cases margin : x < 2
    · have either : x = 0 ∨ x = 1 := by omega
      rcases either with rfl | rfl
      · rw [first, Nat.zero_mul, Nat.zero_add]
        exact Or.inl rfl
      · rw [second, Nat.one_mul, Nat.add_comm]
        exact Or.inr (Or.inl rfl)
    · refine Or.inr (Or.inr ⟨(x - 2) / 6, by omega, (x - 2) % 6, by omega, ?_⟩)
      have place : (0 + (x - 2) / 6) * 6 + 2 + (x - 2) % 6 = x := by omega
      rw [columnByte, if_neg margin, place]

/-- Every byte of the row is written, and no other. -/
theorem setRow_single (low : row < 4) (write : Write UInt8) :
    write ∈ (setRow past row line).writes ↔
      ∃ i, (i % 4 = row ∧ i < 512) ∧ write = ⟨i, [columnByte past line (i / 4)]⟩ := by
  rw [mem_setRow]
  constructor
  · rintro ⟨x, below, rfl⟩
    have column : (x * 4 + row) / 4 = x := by omega
    exact ⟨x * 4 + row, by omega, by rw [column]⟩
  · rintro ⟨i, ⟨here, inside⟩, rfl⟩
    have place : i / 4 * 4 + row = i := by omega
    exact ⟨i / 4, by omega, by rw [place]⟩

theorem setRow_stop (low : row < 4) : ∀ write ∈ (setRow past row line).writes,
    write.stop ≤ framebufferSize :=
  Write.single_stop (setRow_single low) fun _ covered => covered.2

/-- A row is painted over from end to end, and nothing else is touched. -/
theorem getElem?_setRow (size : buf.length = framebufferSize) (low : row < 4) (i : Nat) :
    ((setRow past row line).apply buf)[i]? =
      if i % 4 = row ∧ i < 512 then some (columnByte past line (i / 4)) else buf[i]? :=
  (Write.foldl_single (setRow_single low)
    fun _ covered => Nat.lt_of_lt_of_eq covered.2 size.symm).2 i

theorem length_setRow (size : buf.length = framebufferSize) (low : row < 4) :
    ((setRow past row line).apply buf).length = framebufferSize :=
  (Write.foldl_single (setRow_single low)
    fun _ covered => Nat.lt_of_lt_of_eq covered.2 size.symm).1.trans size

end Bytes

/-! ### The characters without a glyph -/

section Glyphs
variable {past : Nat → UInt8} {line : Option (List UInt8)} {c i : Nat}

/-- The glyph of the space is blank. -/
theorem fontByte_space (past : Nat → UInt8) {i : Nat} (inside : i < 5) :
    fontByte past (5 * ((0x20 : UInt8).toNat - 0x20) + i) = 0 := by
  match i with
  | 0 | 1 | 2 | 3 | 4 => rfl
  | i + 5 => omega

theorem hasGlyph_iff {character : UInt8} (drawable : character ≠ 0x7f) :
    HasGlyph character ↔ ¬ (character < 0x20 ∨ character > 0x7f) := by
  have other : character.toNat ≠ 0x7f := fun is => drawable (UInt8.toNat_inj.mp is)
  rw [HasGlyph, UInt8.le_iff_toNat_le, UInt8.le_iff_toNat_le, UInt8.lt_iff_toNat_lt, gt_iff_lt,
    UInt8.lt_iff_toNat_lt]
  simp only [UInt8.reduceToNat]
  omega

theorem glyph_in_font {character : UInt8} (present : HasGlyph character) (inside : i < 5) :
    5 * (character.toNat - 0x20) + i < font.length := by
  have high := UInt8.le_iff_toNat_le.mp present.2
  simp only [UInt8.reduceToNat] at high
  rw [length_font]
  omega

theorem shownByte_eq (drawable : (textOf line)[c]? ≠ some 0x7f) :
    shownByte past line c i = cellByte line c i := by
  unfold shownByte cellByte shownCharacter
  by_cases inside : i < 5
  · rw [if_pos inside]
    cases found : (textOf line)[c]? with
    | none => exact fontByte_space past inside
    | some character =>
        have glyph := hasGlyph_iff fun is => drawable (found.trans (congrArg some is))
        simp only [Option.getD_some]
        by_cases outside : character < 0x20 ∨ character > 0x7f
        · have missing : ¬ HasGlyph character := fun present => glyph.mp present outside
          rw [if_pos outside, if_neg fun both => missing both.1]
          exact fontByte_space past inside
        · have present := glyph.mpr outside
          rw [if_neg outside, if_pos ⟨present, inside⟩, fontByte, List.getD_eq_getElem?_getD,
            List.getElem?_eq_getElem (glyph_in_font present inside), Option.getD_some,
            Option.getD_some]
  · rw [if_neg inside]
    split
    · rw [if_neg fun both => inside both.2]
    · rfl

/-- Without `0x7f`, what is painted always has a glyph: the filter's space at the least. -/
theorem shown_hasGlyph (drawable : (textOf line)[c]? ≠ some 0x7f) :
    HasGlyph (shownCharacter line c) := by
  unfold shownCharacter
  cases found : (textOf line)[c]? with
  | none => decide
  | some character =>
      have glyph := hasGlyph_iff fun is => drawable (found.trans (congrArg some is))
      simp only [Option.getD_some]
      split
      · decide
      · rename_i outside
        exact glyph.mpr outside

end Glyphs

/-- A row is painted as it should be, and every access stays in range, exactly if none of its 21
characters is `0x7f`, which the filter lets through and the font does not have. -/
theorem set_row_iff (past : Nat → UInt8) {buf : List UInt8} (size : buf.length = framebufferSize)
    {row : Nat} (low : row < 4) (line : Option (List UInt8)) :
    RowPainted past buf row line ↔ ∀ c < 21, (textOf line)[c]? ≠ some 0x7f := by
  constructor
  · rintro ⟨-, -, reads, -, -⟩ c below is
    have shown : shownCharacter line c = 0x7f := by
      rw [shownCharacter, is]
      rfl
    have read : 5 * ((0x7f : UInt8).toNat - 0x20) + 0 ∈ (setRow past row line).reads := by
      rw [← shown]
      exact mem_reads.mpr ⟨c, below, 0, by decide, rfl⟩
    have inside := reads _ read
    rw [length_font] at inside
    exact absurd inside (by decide)
  · intro drawable
    constructor
    · intro x margin
      have here : (x * 4 + row) % 4 = row ∧ x * 4 + row < 512 := by omega
      have column : (x * 4 + row) / 4 = x := by omega
      rw [getElem?_setRow size low, if_pos here, column, columnByte, if_pos margin]
    · intro c below i inside
      have here : ((c * 6 + 2 + i) * 4 + row) % 4 = row ∧ (c * 6 + 2 + i) * 4 + row < 512 := by
        omega
      have column : ((c * 6 + 2 + i) * 4 + row) / 4 = c * 6 + 2 + i := by omega
      have cell : (c * 6 + 2 + i - 2) / 6 = c := by omega
      have pixel : (c * 6 + 2 + i - 2) % 6 = i := by omega
      rw [getElem?_setRow size low, if_pos here, column, columnByte, if_neg (by omega), cell, pixel,
        shownByte_eq (drawable c below)]
    · intro k member
      obtain ⟨c, below, i, inside, rfl⟩ := mem_reads.mp member
      exact glyph_in_font (shown_hasGlyph (drawable c below)) inside
    · exact setRow_stop low
    · intro i other
      rw [getElem?_setRow size low, if_neg fun here => other here.1]

theorem locked_row_painted :
    RowPainted (fun _ => 0xff) (List.replicate 512 0xff) 3 (some [0x4c, 0x4f, 0x43, 0x4b]) ↔
      ∀ c < 21, (textOf (some [0x4c, 0x4f, 0x43, 0x4b]))[c]? ≠ some 0x7f :=
  set_row_iff (fun _ => 0xff) List.length_replicate (by decide) _

/-- A line with the character `0x7f`, for which five bytes behind the font are read. -/
theorem delete_outside_font :
    ¬ ∀ (past : Nat → UInt8) (buf : List UInt8) (row : Nat) (line : Option (List UInt8)),
      buf.length = framebufferSize → row < 4 → RowPainted past buf row line := by
  intro all
  have painted := all (fun _ => 0xff) (List.replicate 512 0) 0 (some [0x7f]) List.length_replicate
    (by decide)
  have read := painted.reads 475 (mem_reads.mpr ⟨0, by decide, 0, by decide, rfl⟩)
  rw [length_font] at read
  exact Nat.lt_irrefl 475 read

end PassingLink.Display
