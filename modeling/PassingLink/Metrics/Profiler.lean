import Mathlib.Algebra.Order.Ring.Nat
import PassingLink.Lib.Greatest
import PassingLink.Lib.Runs

/-! `Profiler` of `profiling.h`, for every frequency. -/
namespace PassingLink.Metrics
open Lib

/-- The array has one entry less than the frequency. -/
structure Profiler (frequency : Nat) where
  times : Vector UInt32 (frequency - 1)
  timesCount : Nat
  beginCycle : UInt32

/-- What is logged, without the name. -/
structure Line where
  average : UInt32
  min : UInt32
  max : UInt32

/-- What a call of `end` stores, and at which index, what it logs, and what it leaves. -/
structure Ended (frequency : Nat) where
  stored : Option (Nat × UInt32)
  logged : Option Line
  profiler : Profiler frequency

namespace Profiler
variable {frequency : Nat}

/-- A static variable. -/
def init (frequency : Nat) : Profiler frequency := ⟨Vector.replicate _ 0, 0, 0⟩

def begin (p : Profiler frequency) (cycle : UInt32) : Profiler frequency :=
  { p with beginCycle := cycle }

def line (frequency : Nat) (times : List UInt32) : Line where
  average :=
    (times.foldl (fun total time => total + time.toUInt64) 0 / UInt64.ofNat (frequency - 1)).toUInt32
  min := times.foldl (fun min time => if time < min then time else min) 0xffffffff
  max := times.foldl (fun max time => if time > max then time else max) 0

/-- `end`; `spoil` is what a store behind the array does to the profiler. -/
def endPair (spoil : Profiler frequency → UInt32 → Profiler frequency) (p : Profiler frequency)
    (cycle : UInt32) : Ended frequency :=
  if p.timesCount ≠ frequency then
    let diff := cycle - p.beginCycle
    { stored := some (p.timesCount, diff)
      logged := none
      profiler :=
        if inside : p.timesCount < frequency - 1 then
          { p with
            times := p.times.set p.timesCount diff inside
            timesCount := p.timesCount + 1 }
        else spoil p diff }
  else
    { stored := none
      logged := some (line frequency p.times.toList)
      profiler := { p with timesCount := 0 } }

end Profiler

/-- A line says the minimum, the maximum and the average, rounded down, of these durations. -/
structure LineOf (durations : List UInt32) (line : Line) : Prop where
  min_mem : line.min ∈ durations
  min_le : ∀ duration ∈ durations, line.min ≤ duration
  max_mem : line.max ∈ durations
  le_max : ∀ duration ∈ durations, duration ≤ line.max
  average : line.average.toNat = (durations.map UInt32.toNat).sum / durations.length

/-! ### The line -/

section Line
variable {times : List UInt32}

theorem foldl_min (times : List UInt32) (start : UInt32) :
    let least := times.foldl (fun min time => if time < min then time else min) start
    least ∈ start :: times ∧ ∀ time ∈ start :: times, least ≤ time :=
  foldl_best (r := fun time least => least ≤ time)
    (fun _ _ _ low lower => UInt32.le_trans lower low) (fun _ _ => UInt32.le_of_lt)
    (fun _ _ => UInt32.not_lt.mp) times start

theorem foldl_max (times : List UInt32) (start : UInt32) :
    let greatest := times.foldl (fun max time => if time > max then time else max) start
    greatest ∈ start :: times ∧ ∀ time ∈ start :: times, time ≤ greatest :=
  foldl_best (r := fun time greatest => time ≤ greatest) (fun _ _ _ => UInt32.le_trans)
    (fun _ _ => UInt32.le_of_lt) (fun _ _ => UInt32.not_lt.mp) times start

/-- The total does not overflow 64 bits. -/
theorem foldl_total (times : List UInt32) {start : UInt64}
    (room : start.toNat + times.length * 2 ^ 32 < 2 ^ 64) :
    (times.foldl (fun total time => total + time.toUInt64) start).toNat =
      start.toNat + (times.map UInt32.toNat).sum := by
  induction times generalizing start with
  | nil => rfl
  | cons time times ih =>
      have small := time.toNat_lt
      rw [List.length_cons] at room
      have next : (start + time.toUInt64).toNat = start.toNat + time.toNat := by
        rw [UInt64.toNat_add, UInt32.toNat_toUInt64]
        omega
      rw [List.foldl_cons, ih (by rw [next]; omega), next, List.map_cons, List.sum_cons]
      omega

theorem sum_le (times : List UInt32) :
    (times.map UInt32.toNat).sum ≤ times.length * (2 ^ 32 - 1) := by
  induction times with
  | nil => exact Nat.zero_le _
  | cons time times ih =>
      have small := time.toNat_lt
      rw [List.map_cons, List.sum_cons, List.length_cons, Nat.add_mul]
      omega

/-- What is logged of a full array is right. -/
theorem line_of {frequency : Nat} (two : 2 ≤ frequency) (int : frequency < 2 ^ 31)
    (size : times.length = frequency - 1) : LineOf times (Profiler.line frequency times) := by
  have filled : ∃ time, time ∈ times := List.exists_mem_of_length_pos (by omega)
  obtain ⟨time, member⟩ := filled
  obtain ⟨least, low⟩ := foldl_min times 0xffffffff
  obtain ⟨greatest, high⟩ := foldl_max times 0
  replace low := (List.forall_mem_cons.mp low).2
  replace high := (List.forall_mem_cons.mp high).2
  have total := @foldl_total times 0 (by rw [size]; change 0 + _ < _; omega)
  have bound := sum_le times
  refine ⟨?_, low, ?_, high, ?_⟩
  · rcases List.mem_cons.mp least with start | found
    · -- Every duration is the largest number then.
      have all := UInt32.le_iff_toNat_le.mp (start ▸ low time member)
      have top := time.toNat_lt
      have same : time = 0xffffffff := by
        apply UInt32.toNat_inj.mp
        simp only [UInt32.reduceToNat] at all ⊢
        omega
      have is : (Profiler.line frequency times).min = time := start.trans same.symm
      rw [is]
      exact member
    · exact found
  · rcases List.mem_cons.mp greatest with start | found
    · have all := UInt32.le_iff_toNat_le.mp (start ▸ high time member)
      have same : time = 0 := UInt32.toNat_inj.mp (Nat.le_zero.mp all)
      have is : (Profiler.line frequency times).max = time := start.trans same.symm
      rw [is]
      exact member
    · exact found
  · have divisor : (UInt64.ofNat (frequency - 1)).toNat = frequency - 1 :=
      UInt64.toNat_ofNat_of_lt (by change _ < 2 ^ 64; omega)
    have quotient : (times.map UInt32.toNat).sum / (frequency - 1) < 2 ^ 32 := by
      rw [Nat.div_lt_iff_lt_mul (by omega), Nat.mul_comm]
      omega
    change (_ / _ : UInt64).toUInt32.toNat = _
    rw [UInt64.toNat_toUInt32, UInt64.toNat_div, divisor, total, size]
    change (0 + _) / _ % _ = _
    rw [Nat.zero_add, Nat.mod_eq_of_lt quotient]

end Line

/-! ### The pairs -/

/-- `recorded` are the durations since the last line, which no code reads. -/
structure Profiled (frequency : Nat) where
  profiler : Profiler frequency
  recorded : List UInt32

/-- The cycle counts that a pair of calls reads. -/
structure Pair where
  first : UInt32
  last : UInt32

section Pairs
variable {frequency : Nat} (spoil : Profiler frequency → UInt32 → Profiler frequency)

def Profiled.init (frequency : Nat) : Profiled frequency := ⟨Profiler.init frequency, []⟩

def Profiled.ended (s : Profiled frequency) (pair : Pair) : Ended frequency :=
  (s.profiler.begin pair.first).endPair spoil pair.last

def Profiled.step (s : Profiled frequency) (pair : Pair) : Profiled frequency where
  profiler := (s.ended spoil pair).profiler
  recorded :=
    match (s.ended spoil pair).stored with
    | some (_, duration) => s.recorded ++ [duration]
    | none => []

/-- The store is inside the array, and the line is about the recorded durations. -/
structure Profiled.InOrder (s : Profiled frequency) (pair : Pair) : Prop where
  stores : ∀ index duration, (s.ended spoil pair).stored = some (index, duration) →
    index < frequency - 1
  logs : ∀ line, (s.ended spoil pair).logged = some line → LineOf s.recorded line

end Pairs

section Counter
variable {frequency : Nat} {spoil : Profiler frequency → UInt32 → Profiler frequency}

theorem endPair_room {p : Profiler frequency} (room : p.timesCount < frequency - 1)
    (cycle : UInt32) :
    p.endPair spoil cycle =
      { stored := some (p.timesCount, cycle - p.beginCycle)
        logged := none
        profiler :=
          { p with
            times := p.times.set p.timesCount (cycle - p.beginCycle) room
            timesCount := p.timesCount + 1 } } := by
  have counting : p.timesCount ≠ frequency := by omega
  rw [Profiler.endPair, if_pos counting]
  simp only [dif_pos room]

section Room
variable {s : Profiled frequency} (room : s.profiler.timesCount < frequency - 1) (pair : Pair)
include room

/-- A pair that finds room in the array counts up. -/
theorem step_count :
    (s.step spoil pair).profiler.timesCount = s.profiler.timesCount + 1 := by
  simp only [Profiled.step, Profiled.ended]
  rw [endPair_room (p := s.profiler.begin pair.first) room]
  rfl

theorem inOrder_of_room : s.InOrder spoil pair := by
  have ended := @endPair_room frequency spoil (s.profiler.begin pair.first) room pair.last
  constructor
  · intro index duration stored
    rw [Profiled.ended, ended] at stored
    obtain ⟨rfl, -⟩ := Prod.ext_iff.mp (Option.some.inj stored)
    exact room
  · intro line logged
    rw [Profiled.ended, ended] at logged
    cases logged

end Room

/-- The next pair after a full array stores behind it. -/
theorem not_inOrder_of_full (two : 2 ≤ frequency) {s : Profiled frequency}
    (full : s.profiler.timesCount = frequency - 1) (pair : Pair) : ¬ s.InOrder spoil pair := by
  have counting : s.profiler.timesCount ≠ frequency := by omega
  intro inOrder
  have stored : (s.ended spoil pair).stored =
      some (s.profiler.timesCount, pair.last - pair.first) :=
    congrArg Ended.stored (if_pos counting)
  have inside := inOrder.stores _ _ stored
  omega

theorem run_count (pairs : List Pair) (room : pairs.length ≤ frequency - 1) :
    (run (Profiled.step spoil) (Profiled.init frequency) pairs).profiler.timesCount =
      pairs.length := by
  induction pairs using List.reverseRecOn with
  | nil => rfl
  | append_singleton pairs pair ih =>
      rw [List.length_append, List.length_singleton] at room ⊢
      have count := ih (by omega)
      rw [run_append, run_cons, run_nil, step_count (by omega), count]

end Counter

/-- A profiler keeps its books in order for fewer pairs than its frequency and not longer: the
store of that pair is behind the array. A line that is logged is right about the array. -/
theorem profiler_iff (frequency : Nat) (two : 2 ≤ frequency) (int : frequency < 2 ^ 31)
    (spoil : Profiler frequency → UInt32 → Profiler frequency) :
    (∀ pairs, Along (Profiled.step spoil) (Profiled.InOrder spoil) (Profiled.init frequency) pairs ↔
      pairs.length < frequency) ∧
    ∀ (p : Profiler frequency) (cycle : UInt32) (line : Line),
      (p.endPair spoil cycle).logged = some line → LineOf p.times.toList line := by
  constructor
  · intro pairs
    rw [along_iff_split]
    constructor
    · intro inOrder
      by_contra long
      have present : frequency - 1 < pairs.length := by omega
      have split := List.take_append_drop (frequency - 1) pairs
      rw [List.drop_eq_getElem_cons present] at split
      have length : (pairs.take (frequency - 1)).length = frequency - 1 :=
        List.length_take_of_le (Nat.le_of_lt present)
      have full := @run_count _ spoil (pairs.take (frequency - 1)) (Nat.le_of_eq length)
      exact not_inOrder_of_full two (full.trans length) _ (inOrder _ _ _ split.symm)
    · rintro short before pair after rfl
      rw [List.length_append, List.length_cons] at short
      have count := @run_count _ spoil before (by omega)
      exact inOrder_of_room (by omega) pair
  · intro p cycle line logged
    unfold Profiler.endPair at logged
    split at logged
    · cases logged
    · rw [← Option.some.inj logged]
      exact line_of two int p.times.length_toList

/-- Profiling every second call, with a store behind the array that changes nothing. -/
theorem one_pair_in_order :
    (∀ pairs, Along (Profiled.step fun p _ => p) (Profiled.InOrder fun p _ => p) (Profiled.init 2)
        pairs ↔ pairs.length < 2) ∧
    ∀ (p : Profiler 2) (cycle : UInt32) (line : Line),
      (p.endPair (fun p _ => p) cycle).logged = some line → LineOf p.times.toList line :=
  profiler_iff 2 (by decide) (by decide) fun p _ => p

/-- The second pair of a profiler of frequency 2 stores at index 1 of one. -/
theorem second_pair_outside :
    ¬ ∀ (frequency : Nat) (spoil : Profiler frequency → UInt32 → Profiler frequency)
      (pairs : List Pair), 2 ≤ frequency → frequency < 2 ^ 31 →
      Along (Profiled.step spoil) (Profiled.InOrder spoil) (Profiled.init frequency) pairs := by
  intro all
  have inOrder := all 2 (fun p _ => p) [⟨0, 10⟩, ⟨20, 30⟩] (by decide) (by decide)
  exact absurd (inOrder.2.1.stores 1 10 rfl) (by decide)

end PassingLink.Metrics
