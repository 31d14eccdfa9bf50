import Mathlib.Algebra.Order.Ring.Nat
import PassingLink.Lib.Average
import PassingLink.Lib.Runs

/-! The latency of `metrics.cpp`: the ticks from an input to the write that sends it, and their
moving average in the integer instantiation. -/
namespace PassingLink.Metrics
open Lib

structure MovingAverage where
  reports : UInt32
  average : Option UInt64

namespace MovingAverage

def reset : MovingAverage := ⟨0, none⟩

section Template
variable (alphaNum alphaDenom : UInt64)

def add (m : MovingAverage) (value : UInt64) : MovingAverage where
  reports := m.reports + 1
  average :=
    match m.average with
    | none => some value
    | some average =>
        let beta := alphaDenom - alphaNum
        some ((beta * average + alphaNum * value) / alphaDenom)

/-- The optional that is dereferenced. -/
def get (m : MovingAverage) : Option UInt64 := m.average

/-- The products of the next `add` and their sum fit into 64 bits. -/
def NoOverflow (m : MovingAverage) (value : UInt64) : Prop :=
  ∀ average, m.average = some average →
    (alphaDenom - alphaNum).toNat * average.toNat + alphaNum.toNat * value.toNat < 2 ^ 64

end Template

/-! ### One sample -/

section Sample
variable {alphaNum alphaDenom : UInt64} {m : MovingAverage} {average value : UInt64}

theorem beta_toNat (less : alphaNum < alphaDenom) :
    (alphaDenom - alphaNum).toNat = alphaDenom.toNat - alphaNum.toNat :=
  UInt64.toNat_sub_of_le _ _ (UInt64.le_of_lt less)

theorem sum_lt (less : alphaNum < alphaDenom) (narrow : alphaDenom.toNat ≤ 2 ^ 32)
    (first : average.toNat < 2 ^ 32) (second : value.toNat < 2 ^ 32) :
    (alphaDenom - alphaNum).toNat * average.toNat + alphaNum.toNat * value.toNat < 2 ^ 64 := by
  have less' := UInt64.lt_iff_toNat_lt.mp less
  rw [beta_toNat less]
  calc (alphaDenom.toNat - alphaNum.toNat) * average.toNat + alphaNum.toNat * value.toNat
      ≤ (alphaDenom.toNat - alphaNum.toNat) * (2 ^ 32 - 1) + alphaNum.toNat * (2 ^ 32 - 1) :=
        Nat.add_le_add (Nat.mul_le_mul_left _ (by omega)) (Nat.mul_le_mul_left _ (by omega))
    _ = alphaDenom.toNat * (2 ^ 32 - 1) := blend_sum less' _
    _ ≤ 2 ^ 32 * (2 ^ 32 - 1) := Nat.mul_le_mul_right _ narrow
    _ < 2 ^ 64 := by decide

theorem add_average (less : alphaNum < alphaDenom) (narrow : alphaDenom.toNat ≤ 2 ^ 32)
    (is : m.average = some average) (first : average.toNat < 2 ^ 32)
    (second : value.toNat < 2 ^ 32) :
    ∃ next, (m.add alphaNum alphaDenom value).average = some next ∧
      next.toNat = blend alphaNum.toNat alphaDenom.toNat average.toNat value.toNat := by
  have fits := sum_lt less narrow first second
  have left : (alphaDenom - alphaNum).toNat * average.toNat < 2 ^ 64 := by omega
  have right : alphaNum.toNat * value.toNat < 2 ^ 64 := by omega
  refine ⟨_, by rw [add, is], ?_⟩
  rw [UInt64.toNat_div, UInt64.toNat_add, UInt64.toNat_mul, UInt64.toNat_mul,
    Nat.mod_eq_of_lt left, Nat.mod_eq_of_lt right, Nat.mod_eq_of_lt fits, beta_toNat less, blend]

end Sample

/-! ### Any number of samples -/

/-- What `get` returns lies between all lower and all upper bounds of the samples. -/
def Between (samples : List UInt64) (m : MovingAverage) : Prop :=
  ∃ average, m.get = some average ∧ ∀ lo hi : Nat,
    (∀ sample ∈ samples, lo ≤ sample.toNat ∧ sample.toNat ≤ hi) →
      lo ≤ average.toNat ∧ average.toNat ≤ hi

/-- After enough samples `value`, `get` stays within 1 of it. -/
def Settles (alphaNum alphaDenom : UInt64) (m : MovingAverage) (value : UInt64) : Prop :=
  ∃ n, ∀ k ≥ n, ∃ average,
    (run (add alphaNum alphaDenom) m (List.replicate k value)).get = some average ∧
      average.toNat ≤ value.toNat + 1 ∧ value.toNat ≤ average.toNat + 1

/-- The average, if there is one, is in the range. -/
def Inside (lo hi : Nat) (m : MovingAverage) : Prop :=
  ∀ average, m.average = some average → lo ≤ average.toNat ∧ average.toNat ≤ hi

section Samples
variable {alphaNum alphaDenom : UInt64} {samples : List UInt64}

theorem inside_reset (lo hi : Nat) : Inside lo hi reset := by
  intro average is
  cases is

theorem inside_add (less : alphaNum < alphaDenom) (narrow : alphaDenom.toNat ≤ 2 ^ 32)
    {lo hi : Nat} (small : hi < 2 ^ 32) (m : MovingAverage) (value : UInt64)
    (sample : lo ≤ value.toNat ∧ value.toNat ≤ hi) (inside : Inside lo hi m) :
    Inside lo hi (m.add alphaNum alphaDenom value) := by
  intro next is
  cases before : m.average with
  | none =>
      simp only [add, before, Option.some_inj] at is
      rwa [← is]
  | some average =>
      have less' := UInt64.lt_iff_toNat_lt.mp less
      obtain ⟨low, high⟩ := inside average before
      obtain ⟨next', is', value'⟩ := add_average less narrow before
        (Nat.lt_of_le_of_lt high small) (Nat.lt_of_le_of_lt sample.2 small)
      obtain rfl := Option.some.inj (is.symm.trans is')
      rw [value']
      exact ⟨le_blend less' low sample.1, blend_le less' high sample.2⟩

theorem run_inside (less : alphaNum < alphaDenom) (narrow : alphaDenom.toNat ≤ 2 ^ 32)
    {lo hi : Nat} (small : hi < 2 ^ 32)
    (range : ∀ sample ∈ samples, lo ≤ sample.toNat ∧ sample.toNat ≤ hi) :
    Inside lo hi (run (add alphaNum alphaDenom) reset samples) :=
  run_invariant_of_legal (inside_add less narrow small) (inside_reset lo hi)
    (along_of_forall (fun sample member _ => range sample member) reset)

theorem isSome_run (sampled : samples ≠ []) :
    (run (add alphaNum alphaDenom) reset samples).average.isSome = true := by
  rw [← List.dropLast_append_getLast sampled, run_append, run_cons, run_nil, add]
  dsimp only
  split <;> rfl

theorem run_between (less : alphaNum < alphaDenom) (narrow : alphaDenom.toNat ≤ 2 ^ 32)
    (small : ∀ sample ∈ samples, sample.toNat < 2 ^ 32) (sampled : samples ≠ []) :
    Between samples (run (add alphaNum alphaDenom) reset samples) := by
  obtain ⟨average, is⟩ := Option.isSome_iff_exists.mp (isSome_run sampled)
  refine ⟨average, is, ?_⟩
  intro lo hi range
  have capped := @run_inside _ _ _ less narrow lo (min hi (2 ^ 32 - 1)) (by omega)
    (fun sample member => by
      have sample' := small sample member
      have bounds := range sample member
      omega) average is
  omega

theorem along_noOverflow (less : alphaNum < alphaDenom) (narrow : alphaDenom.toNat ≤ 2 ^ 32)
    (small : ∀ sample ∈ samples, sample.toNat < 2 ^ 32) :
    Along (add alphaNum alphaDenom) (NoOverflow alphaNum alphaDenom) reset samples := by
  have range : Along (add alphaNum alphaDenom)
      (fun _ value => 0 ≤ value.toNat ∧ value.toNat ≤ 2 ^ 32 - 1) reset samples :=
    along_of_forall (fun sample member _ => by
      have sample' := small sample member
      omega) reset
  refine along_of_legal (inside_add less narrow (by decide)) ?_ (inside_reset 0 (2 ^ 32 - 1)) range
  intro m value sample inside average is
  have average' := inside average is
  exact sum_lt less narrow (by omega) (by omega)

theorem run_replicate (less : alphaNum < alphaDenom) (narrow : alphaDenom.toNat ≤ 2 ^ 32)
    {m : MovingAverage} {average value : UInt64} (is : m.average = some average)
    (first : average.toNat < 2 ^ 32) (second : value.toNat < 2 ^ 32) (k : Nat) :
    ∃ next, (run (add alphaNum alphaDenom) m (List.replicate k value)).average = some next ∧
      next.toNat = (blend alphaNum.toNat alphaDenom.toNat · value.toNat)^[k] average.toNat := by
  induction k generalizing m average with
  | zero => exact ⟨average, is, rfl⟩
  | succ k ih =>
      obtain ⟨next, is', value'⟩ := add_average less narrow is first second
      have less' := UInt64.lt_iff_toNat_lt.mp less
      have high := @blend_le _ _ less' (2 ^ 32 - 1) average.toNat value.toNat (by omega) (by omega)
      have small : next.toNat < 2 ^ 32 := by omega
      obtain ⟨last, found, value''⟩ := ih is' small
      refine ⟨last, found, ?_⟩
      rw [value'', value', Function.iterate_succ_apply]

/-- From above the average comes down to the value, from below it may stop short of it. -/
theorem settles_some (positive : 0 < alphaNum) (less : alphaNum < alphaDenom)
    (narrow : alphaDenom.toNat ≤ 2 ^ 32) {m : MovingAverage} {average value : UInt64}
    (is : m.average = some average) (first : average.toNat < 2 ^ 32)
    (second : value.toNat < 2 ^ 32) :
    Settles alphaNum alphaDenom m value ↔
      dead alphaNum.toNat alphaDenom.toNat ≤ 1 ∨ value.toNat ≤ average.toNat + 1 := by
  have positive' : 0 < alphaNum.toNat := UInt64.lt_iff_toNat_lt.mp positive
  have less' := UInt64.lt_iff_toNat_lt.mp less
  have follow := run_replicate less narrow is first second
  rcases Nat.le_total value.toNat average.toNat with above | below
  · refine iff_of_true ⟨average.toNat - value.toNat, ?_⟩ (Or.inr (by omega))
    intro k enough
    obtain ⟨next, found, value'⟩ := follow k
    have settled := above_settles positive' less' value.toNat enough
    rw [Nat.add_sub_cancel' above] at settled
    rw [settled] at value'
    exact ⟨next, found, by omega, by omega⟩
  · have settled (k : Nat) (enough : value.toNat - average.toNat ≤ k) := by
      have reached := below_settles positive' less' (Nat.sub_le value.toNat average.toNat) enough
      rwa [Nat.sub_sub_self below] at reached
    constructor
    · rintro ⟨n, near⟩
      obtain ⟨next, found, -, close⟩ := near (max n (value.toNat - average.toNat)) (by omega)
      obtain ⟨next', found', value'⟩ := follow (max n (value.toNat - average.toNat))
      obtain rfl := Option.some.inj (found.symm.trans found')
      rw [settled _ (Nat.le_max_right _ _)] at value'
      omega
    · intro near
      refine ⟨value.toNat - average.toNat, ?_⟩
      intro k enough
      obtain ⟨next, found, value'⟩ := follow k
      rw [settled k enough] at value'
      exact ⟨next, found, by omega, by omega⟩

/-- The first sample is the average. -/
theorem settles_none (positive : 0 < alphaNum) (less : alphaNum < alphaDenom)
    (narrow : alphaDenom.toNat ≤ 2 ^ 32) {m : MovingAverage} {value : UInt64}
    (is : m.average = none) (low : value.toNat < 2 ^ 32) : Settles alphaNum alphaDenom m value := by
  have first : (m.add alphaNum alphaDenom value).average = some value := by rw [add, is]
  obtain ⟨n, near⟩ := (settles_some positive less narrow first low low).mpr (Or.inr (by omega))
  refine ⟨n + 1, ?_⟩
  intro k enough
  obtain ⟨later, rfl⟩ : ∃ later, k = later + 1 := ⟨k - 1, by omega⟩
  exact near later (Nat.le_of_succ_le_succ enough)

end Samples

/-! ### The averager -/

/-- `moving_average<uint64_t, 2, 2048>` after samples. -/
def averager (samples : List UInt64) : MovingAverage := run (add 2 2048) reset samples

/-- The averager never overflows and stays between its samples. It follows a value exactly if that
is at most 1 above the average: of more, up to 1023 are rounded away with every sample. -/
theorem moving_average_iff (samples : List UInt64)
    (small : ∀ sample ∈ samples, sample.toNat < 2 ^ 32) :
    Along (add 2 2048) (NoOverflow 2 2048) reset samples ∧
    (samples ≠ [] → Between samples (averager samples)) ∧
    ∀ value : UInt64, value.toNat < 2 ^ 32 →
      (Settles 2 2048 (averager samples) value ↔
        ∀ average, (averager samples).average = some average →
          value.toNat ≤ average.toNat + 1) := by
  have less : (2 : UInt64) < 2048 := by decide
  have narrow : (2048 : UInt64).toNat ≤ 2 ^ 32 := by decide
  have positive : (0 : UInt64) < 2 := by decide
  refine ⟨along_noOverflow less narrow small, run_between less narrow small, ?_⟩
  intro value low
  cases is : (averager samples).average with
  | none =>
      refine iff_of_true (settles_none positive less narrow is low) ?_
      intro average found
      cases found
  | some average =>
      have inside := @run_inside 2 2048 samples less narrow 0 (2 ^ 32 - 1) (by decide)
        (fun sample member => by
          have sample' := small sample member
          omega) average is
      have stuck : ¬ dead (2 : UInt64).toNat (2048 : UInt64).toNat ≤ 1 := by decide
      rw [settles_some positive less narrow is (by omega) low, or_iff_right stuck]
      constructor
      · intro near found found'
        obtain rfl := Option.some.inj found'
        exact near
      · exact fun near => near average rfl

/-- A latency of 300 ticks. -/
def firstSample : List UInt64 := [300]

theorem latency_falls :
    Along (add 2 2048) (NoOverflow 2 2048) reset firstSample ∧
    (firstSample ≠ [] → Between firstSample (averager firstSample)) ∧
    ∀ value : UInt64, value.toNat < 2 ^ 32 →
      (Settles 2 2048 (averager firstSample) value ↔
        ∀ average, (averager firstSample).average = some average →
          value.toNat ≤ average.toNat + 1) :=
  moving_average_iff firstSample (List.forall_mem_singleton.mpr (by decide))

/-- An average of 0 stays there, whatever number of 2s follows. -/
theorem latency_stuck :
    ¬ ∀ (samples : List UInt64) (value : UInt64), (∀ sample ∈ samples, sample.toNat < 2 ^ 32) →
      value.toNat < 2 ^ 32 → Settles 2 2048 (averager samples) value := by
  intro all
  have is : (averager [0]).average = some 0 := rfl
  have settled := all [0] 2 (List.forall_mem_singleton.mpr (by decide)) (by decide)
  have near := (settles_some (by decide) (by decide) (by decide) is (by decide) (by decide)).mp
    settled
  exact absurd near (by decide)

end MovingAverage

/-! ### Where the samples come from -/

/-- The static variables of `metrics.cpp`. -/
structure MetricsState where
  inputTick : Option UInt32
  averager : MovingAverage

def metricsReset : MetricsState := ⟨none, MovingAverage.reset⟩

/-- `ticks` is what `k_uptime_ticks` returns. -/
def metricsRecordInputRead (m : MetricsState) (ticks : UInt64) : MetricsState :=
  match m.inputTick with
  | none => { m with inputTick := some ticks.toUInt32 }
  | some _ => m

/-- The latency is what is given to `display_update_latency`, if it is called. -/
def metricsRecordUsbWrite (usPerTick : UInt32) (m : MetricsState) (ticks : UInt64) :
    MetricsState × Option UInt32 :=
  match m.inputTick with
  | none => (m, none)
  | some inputTick =>
      let diff := ticks.toUInt32 - inputTick
      let averager := m.averager.add 2 2048 diff.toUInt64
      let latency := averager.get.map fun average => (usPerTick.toUInt64 * average).toUInt32
      (⟨none, averager⟩, if averager.reports % 1024 = 0 then latency else none)

inductive MetricsCall where
  | reset
  | recordInputRead (ticks : UInt64)
  | recordUsbWrite (ticks : UInt64)

def MetricsState.step (usPerTick : UInt32) (m : MetricsState) : MetricsCall → MetricsState
  | .reset => metricsReset
  | .recordInputRead ticks => metricsRecordInputRead m ticks
  | .recordUsbWrite ticks => (metricsRecordUsbWrite usPerTick m ticks).1

/-- The averager has been given differences of 32 bits since its last reset. -/
def Sampled (m : MetricsState) : Prop :=
  ∃ samples, (∀ sample ∈ samples, sample.toNat < 2 ^ 32) ∧
    m.averager = MovingAverage.averager samples

theorem metrics_sampled (usPerTick : UInt32) (calls : List MetricsCall) :
    Sampled (run (MetricsState.step usPerTick) metricsReset calls) := by
  refine @run_invariant _ _ _ Sampled ?_ metricsReset ⟨[], List.forall_mem_nil _, rfl⟩ calls
  rintro m call ⟨samples, small, is⟩
  cases call with
  | reset => exact ⟨[], List.forall_mem_nil _, rfl⟩
  | recordInputRead ticks =>
      refine ⟨samples, small, ?_⟩
      simp only [MetricsState.step, metricsRecordInputRead]
      split <;> exact is
  | recordUsbWrite ticks =>
      simp only [MetricsState.step, metricsRecordUsbWrite]
      split
      · exact ⟨samples, small, is⟩
      · rename_i inputTick _
        refine ⟨samples ++ [(ticks.toUInt32 - inputTick).toUInt64], ?_, ?_⟩
        · intro sample member
          rcases List.mem_append.mp member with old | new
          · exact small sample old
          · rw [List.mem_singleton.mp new]
            exact UInt32.toNat_lt _
        · rw [MovingAverage.averager, run_append, ← MovingAverage.averager, ← is]
          rfl

end PassingLink.Metrics
