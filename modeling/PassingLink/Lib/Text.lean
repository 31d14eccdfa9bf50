import PassingLink.Lib.Buffer

/-! Text written into the bytes of a span, by functions that return how much they have written.
Functions that return less than that, or more, can be composed but not trusted. -/
namespace PassingLink.Lib

/-- A string of C. -/
structure CString where
  chars : List UInt8
  terminated : 0 ∉ chars

namespace CString

def empty : CString := ⟨[], List.not_mem_nil⟩

def append (s t : CString) : CString where
  chars := s.chars ++ t.chars
  terminated := by
    rw [List.mem_append]
    exact not_or_intro s.terminated t.terminated

instance : Append CString := ⟨append⟩

def length (s : CString) : Nat := s.chars.length

@[simp] theorem length_append (s t : CString) : (s ++ t).length = s.length + t.length :=
  List.length_append

@[simp] theorem length_chars (s : CString) : s.chars.length = s.length := rfl

/-- What a reader takes from the bytes of a buffer. -/
def read (buf : List UInt8) : List UInt8 := buf.takeWhile (· ≠ 0)

theorem read_append {s : List UInt8} (terminated : 0 ∉ s) (rest : List UInt8) :
    read (s ++ 0 :: rest) = s := by
  have through : ∀ c ∈ s, (decide (c ≠ 0)) = true := by
    intro c member
    apply decide_eq_true
    rintro rfl
    exact terminated member
  rw [read, List.takeWhile_append_of_pos through, List.takeWhile_cons_of_neg (by decide),
    List.append_nil]

/-- A zero byte hides everything behind it. -/
theorem length_read_lt {s : List UInt8} (zero : 0 ∈ s) (rest : List UInt8) :
    (read (s ++ rest)).length < s.length := by
  induction s with
  | nil => cases zero
  | cons c s ih =>
      by_cases stop : c = 0
      · rw [stop, List.cons_append, read, List.takeWhile_cons_of_neg (by decide)]
        exact Nat.zero_lt_succ s.length
      · have later : 0 ∈ s := by
          rcases List.mem_cons.mp zero with is | later
          · exact absurd is.symm stop
          · exact later
        have goes : decide (c ≠ 0) = true := decide_eq_true stop
        simp only [read, List.cons_append, List.takeWhile_cons, goes, if_true]
        exact Nat.succ_lt_succ (ih later)

end CString

/-- The number that the function returns, and the bytes of the span afterwards. -/
abbrev Printer := List UInt8 → Nat × List UInt8

/-- The result for a span of these bytes is the text as far as it fits, and its length. -/
structure Cuts (text : List UInt8) (buf : List UInt8) (result : Nat × List UInt8) : Prop where
  count : result.1 = min text.length buf.length
  bytes : result.2.take result.1 = text.take buf.length
  size : result.2.length = buf.length

namespace Printer

/-- `strncpy` of as many characters as there are, or as there is room for. -/
def copy (text : List UInt8) : Printer := fun buf =>
  let n := min text.length buf.length
  (n, overwrite buf 0 (text.take n))

/-- The second function is given what the first one has not used. -/
def andThen (p q : Printer) : Printer := fun buf =>
  let (n, buf) := p buf
  let (m, rest) := q (buf.drop n)
  (n + m, buf.take n ++ rest)

/-- `snprintf` cuts the text for the terminating byte, and returns its whole length. -/
def snprintf (text : List UInt8) : Printer := fun buf =>
  (text.length, if buf.length = 0 then buf else overwrite buf 0 (text.take (buf.length - 1) ++ [0]))

variable {text rest buf : List UInt8}

theorem overwrite_start {data : List UInt8} :
    overwrite buf 0 data = data ++ buf.drop data.length := by
  rw [overwrite, List.take_zero, List.nil_append, Nat.zero_add]

theorem length_snprintf (text buf : List UInt8) : (snprintf text buf).2.length = buf.length := by
  unfold snprintf
  dsimp only
  split
  · rfl
  · apply length_overwrite
    rw [List.length_append, List.length_take, List.length_singleton]
    omega

theorem length_andThen {p q : Printer} (first : (p buf).2.length = buf.length)
    (second : ∀ buf, (q buf).2.length = buf.length) :
    (andThen p q buf).2.length = buf.length := by
  have result : (andThen p q buf).2 =
      (p buf).2.take (p buf).1 ++ (q ((p buf).2.drop (p buf).1)).2 := rfl
  rw [result, List.length_append, second, List.length_take, List.length_drop, first]
  omega

theorem copy_cuts (text buf : List UInt8) : Cuts text buf (copy text buf) := by
  have length : (text.take (min text.length buf.length)).length = min text.length buf.length := by
    rw [List.length_take]
    omega
  constructor
  · rfl
  · change (overwrite buf 0 (text.take (min text.length buf.length))).take
      (min text.length buf.length) = text.take buf.length
    rw [overwrite_start, List.take_left' length]
    by_cases short : text.length ≤ buf.length
    · rw [Nat.min_eq_left short, List.take_length, List.take_of_length_le short]
    · rw [Nat.min_eq_right (Nat.le_of_not_le short)]
  · apply length_overwrite
    rw [length]
    omega

/-- After a function that can be trusted, all depends on the one that goes on. -/
theorem andThen_cuts_iff {p q : Printer} (first : Cuts text buf (p buf)) :
    Cuts (text ++ rest) buf (andThen p q buf) ↔
      Cuts rest ((p buf).2.drop (p buf).1) (q ((p buf).2.drop (p buf).1)) := by
  obtain ⟨count, bytes, size⟩ := first
  have used : ((p buf).2.take (p buf).1).length = (p buf).1 := by
    rw [List.length_take]
    omega
  have left : ((p buf).2.drop (p buf).1).length = buf.length - text.length := by
    rw [List.length_drop]
    omega
  have whole : (text ++ rest).take buf.length =
      (p buf).2.take (p buf).1 ++ rest.take (buf.length - text.length) := by
    rw [List.take_append, bytes]
  have cut (m : Nat) (tail : List UInt8) :
      ((p buf).2.take (p buf).1 ++ tail).take ((p buf).1 + m) =
        (p buf).2.take (p buf).1 ++ tail.take m := by
    rw [List.take_append, used, Nat.add_sub_cancel_left, List.take_of_length_le (by omega)]
  have result : andThen p q buf = ((p buf).1 + (q ((p buf).2.drop (p buf).1)).1,
      (p buf).2.take (p buf).1 ++ (q ((p buf).2.drop (p buf).1)).2) := rfl
  rw [result]
  generalize q ((p buf).2.drop (p buf).1) = tail
  constructor
  · rintro ⟨count', bytes', size'⟩
    simp only [List.length_append] at count' size'
    rw [cut, whole] at bytes'
    constructor
    · rw [left]
      omega
    · rw [left]
      exact List.append_cancel_left bytes'
    · rw [left]
      omega
  · rintro ⟨count', bytes', size'⟩
    rw [left] at count' bytes' size'
    constructor
    · simp only [List.length_append]
      omega
    · rw [cut, whole, bytes']
    · simp only [List.length_append]
      omega

theorem andThen_cuts {p q : Printer} (first : Cuts text buf (p buf))
    (second : ∀ buf, Cuts rest buf (q buf)) : Cuts (text ++ rest) buf (andThen p q buf) :=
  (andThen_cuts_iff first).mpr (second _)

/-- `snprintf` is as good as a copy exactly if there is room for the terminating byte. -/
theorem snprintf_cuts_iff {text : CString} (written : text.chars ≠ []) :
    Cuts text.chars buf (snprintf text.chars buf) ↔ text.length < buf.length := by
  have pos : 0 < text.length := List.length_pos_of_ne_nil written
  constructor
  · rintro ⟨count, bytes, -⟩
    by_contra short
    have exact : buf.length = text.length := by
      change text.length = min text.length buf.length at count
      omega
    -- The last byte of the span is the terminating one, which no text has.
    have zero : (0 : UInt8) ∈ text.chars := by
      have occupied : ¬ buf.length = 0 := by omega
      have full : (text.chars.take (buf.length - 1) ++ [0]).length = text.length := by
        rw [List.length_append, List.length_take, CString.length_chars, List.length_singleton]
        omega
      rw [snprintf, if_neg occupied, overwrite_start, exact, List.take_left'
        (by rw [← exact, full]; rfl), ← CString.length_chars, List.take_length] at bytes
      rw [← bytes]
      exact List.mem_append_right _ (List.mem_singleton_self 0)
    exact text.terminated zero
  · intro room
    have occupied : ¬ buf.length = 0 := by omega
    have uncut : text.chars.take (buf.length - 1) = text.chars :=
      List.take_of_length_le (by rw [CString.length_chars]; omega)
    have result : snprintf text.chars buf =
        (text.length, text.chars ++ (0 :: buf.drop (text.chars ++ [0]).length)) := by
      rw [snprintf, if_neg occupied, overwrite_start, uncut, List.append_assoc]
      rfl
    rw [result]
    constructor
    · exact (Nat.min_eq_left (Nat.le_of_lt room)).symm
    · have cut := List.take_of_length_le (l := text.chars) (Nat.le_of_lt room)
      exact (List.take_left' rfl).trans cut.symm
    · simp only [List.length_append, List.length_cons, List.length_drop, CString.length_chars,
        List.length_nil]
      omega

end Printer
end PassingLink.Lib
