import PassingLink.Input.Touchpad

/-! The contact, its counter and its position, as the answers of the sensor determine them. -/
namespace PassingLink.Input

def TouchpadXYFormat.x (p : TouchpadXYFormat) : Nat :=
  256 * p.xh.toNat + 16 * p.xm.toNat + p.xl.toNat

def TouchpadXYFormat.y (p : TouchpadXYFormat) : Nat :=
  256 * p.yh.toNat + 16 * p.ym.toNat + p.yl.toNat

def TouchpadOutput.touched (output : TouchpadOutput) : Bool := output.touchpoints ≠ 0

/-- What the successful reads have returned. -/
def answers (seen : List I2cRead) : List TouchpadOutput :=
  (seen.filter fun read => read.rc = 0).map I2cRead.input

/-- The number of changes from released to touched, starting from the given level. -/
def touches : Bool → List Bool → Nat
  | _, [] => 0
  | before, level :: levels => (if level && !before then 1 else 0) + touches level levels

theorem touches_concat (before : Bool) (levels : List Bool) (level : Bool) :
    touches before (levels ++ [level]) =
      touches before levels + if level && !levels.getLastD before then 1 else 0 := by
  induction levels generalizing before with
  | nil =>
      rw [List.nil_append, touches, touches, touches, List.getLastD_nil, Nat.add_zero, Nat.zero_add]
  | cons first levels ih =>
      rw [List.cons_append, touches, ih, touches, List.getLastD_cons, Nat.add_assoc]

/-- `touchpad_data` after these reads. -/
structure Tracks (seen : List I2cRead) (data : TouchpadData) : Prop where
  unpressed : data.p1.unpressed = true ↔
    ∀ last, (answers seen).getLast? = some last → last.touchpoints = 0
  counter : data.p1.counter.toNat =
    touches false ((answers seen).map TouchpadOutput.touched) % 128
  position : ∀ last, ((answers seen).filter TouchpadOutput.touched).getLast? = some last →
    data.p1.x = last.p1.x ∧ data.p1.y = last.p1.y
  p2 : data.p2 = Touchpad.init.touchpadData.p2

/-- The reads so far, as far as the next one depends on them. -/
structure Tracking (seen : List I2cRead) (data : TouchpadData) : Prop extends Tracks seen data where
  three : data.p1.data.length = 3
  level : data.p1.unpressed =
    !((answers seen).map TouchpadOutput.touched).getLastD false

theorem fromNibbles_x (p : TouchpadXYFormat) :
    (fromNibbles p.xh p.xm p.xl).toNat = p.x ∧ (fromNibbles p.xh p.xm p.xl).toNat < 4096 := by
  have h : p.xh.toNat < 16 := by
    rw [TouchpadXYFormat.xh, and_low_nibble]
    exact Nat.mod_lt _ (by decide)
  have m : p.xm.toNat < 16 := by
    have byte := p.byte1.toNat_lt
    rw [TouchpadXYFormat.xm, shift_high_nibble]
    omega
  have l : p.xl.toNat < 16 := by
    rw [TouchpadXYFormat.xl, and_low_nibble]
    exact Nat.mod_lt _ (by decide)
  have value := fromNibbles_toNat h m l
  refine ⟨value, ?_⟩
  omega

theorem fromNibbles_y (p : TouchpadXYFormat) :
    (fromNibbles p.yh p.ym p.yl).toNat = p.y ∧ (fromNibbles p.yh p.ym p.yl).toNat < 4096 := by
  have h : p.yh.toNat < 16 := by
    have byte := p.byte0.toNat_lt
    rw [TouchpadXYFormat.yh, shift_high_nibble]
    omega
  have m : p.ym.toNat < 16 := by
    have byte := p.byte2.toNat_lt
    rw [TouchpadXYFormat.ym, shift_high_nibble]
    omega
  have l : p.yl.toNat < 16 := by
    rw [TouchpadXYFormat.yl, and_low_nibble]
    exact Nat.mod_lt _ (by decide)
  have value := fromNibbles_toNat h m l
  refine ⟨value, ?_⟩
  omega

theorem touch_released (t : TouchpadXY) {input : TouchpadOutput} (released : input.touchpoints = 0) :
    t.touch input = { t with unpressed := true } := by
  have untouched : ¬ 1 ≤ input.touchpoints := by
    rw [released]
    decide
  simp only [TouchpadXY.touch, if_pos released, if_neg untouched]

theorem touch_touched (t : TouchpadXY) {input : TouchpadOutput} (touched : input.touchpoints ≠ 0) :
    t.touch input =
      (({ t with
          counter := if t.unpressed then (t.counter + 1) % 128 else t.counter
          unpressed := false }).setX (fromNibbles input.p1.xh input.p1.xm input.p1.xl)).setY
        (fromNibbles input.p1.yh input.p1.ym input.p1.yl) := by
  have touching : 1 ≤ input.touchpoints := by
    rw [UInt8.le_iff_toNat_le]
    exact Nat.pos_of_ne_zero fun zero => touched (UInt8.toNat_inj.mp zero)
  unfold TouchpadXY.touch
  rw [if_neg touched, if_pos touching]
  cases t with
  | mk counter unpressed data => cases unpressed <;> rfl

theorem answers_concat (seen : List I2cRead) (read : I2cRead) :
    answers (seen ++ [read]) = if read.rc = 0 then answers seen ++ [read.input] else answers seen := by
  unfold answers
  rw [List.filter_append, List.map_append]
  by_cases answered : read.rc = 0
  · simp only [List.filter_cons, answered, decide_true, if_true, List.filter_nil, List.map_cons,
      List.map_nil]
  · simp only [List.filter_cons, answered, decide_false, Bool.false_eq_true, if_false,
      List.filter_nil, List.map_nil, List.append_nil]

section Tracking
variable {seen : List I2cRead} {data : TouchpadData} {read : I2cRead}

theorem tracking_init : Tracking [] Touchpad.init.touchpadData where
  unpressed := by
    refine iff_of_true rfl ?_
    intro last unread
    cases unread
  counter := rfl
  position := by
    intro last unread
    cases unread
  p2 := rfl
  three := rfl
  level := rfl

theorem tracking_failed (tracking : Tracking seen data) (failed : read.rc ≠ 0) :
    Tracking (seen ++ [read]) data := by
  have same : answers (seen ++ [read]) = answers seen := by
    rw [answers_concat, if_neg failed]
  exact
    { unpressed := by
        rw [same]
        exact tracking.unpressed
      counter := by
        rw [same]
        exact tracking.counter
      position := by
        rw [same]
        exact tracking.position
      p2 := tracking.p2
      three := tracking.three
      level := by
        rw [same]
        exact tracking.level }

theorem tracking_released (tracking : Tracking seen data) (answered : read.rc = 0)
    (released : read.input.touchpoints = 0) :
    Tracking (seen ++ [read]) { data with p1 := data.p1.touch read.input } := by
  have longer : answers (seen ++ [read]) = answers seen ++ [read.input] := by
    rw [answers_concat, if_pos answered]
  have level : read.input.touched = false := decide_eq_false (not_not.mpr released)
  rw [touch_released data.p1 released]
  exact
    { unpressed := by
        refine iff_of_true rfl ?_
        intro last is
        rw [longer, List.getLast?_concat] at is
        rw [← Option.some.inj is]
        exact released
      counter := by
        rw [longer, List.map_append, List.map_singleton, touches_concat, level, Bool.false_and,
          if_neg Bool.false_ne_true, Nat.add_zero]
        exact tracking.counter
      position := by
        intro last is
        rw [longer, List.filter_append, List.filter_singleton, level] at is
        rw [cond_false, List.append_nil] at is
        exact tracking.position last is
      p2 := tracking.p2
      three := tracking.three
      level := by
        rw [longer, List.map_append, List.map_singleton, List.getLastD_concat, level]
        rfl }

theorem next_counter {counter : UInt8} {n : Nat} (counts : counter.toNat = n % 128) :
    ((counter + 1) % 128).toNat = (n + 1) % 128 := by
  have one : (1 : UInt8).toNat = 1 := rfl
  have limit : (128 : UInt8).toNat = 128 := rfl
  rw [UInt8.toNat_mod, UInt8.toNat_add, limit]
  omega

theorem tracking_touched (tracking : Tracking seen data) (answered : read.rc = 0)
    (touched : read.input.touchpoints ≠ 0) :
    Tracking (seen ++ [read]) { data with p1 := data.p1.touch read.input } := by
  have longer : answers (seen ++ [read]) = answers seen ++ [read.input] := by
    rw [answers_concat, if_pos answered]
  have level : read.input.touched = true := decide_eq_true touched
  have x := fromNibbles_x read.input.p1
  have y := fromNibbles_y read.input.p1
  rw [touch_touched data.p1 touched]
  exact
    { unpressed := by
        refine iff_of_false Bool.false_ne_true ?_
        intro released
        apply touched
        apply released
        rw [longer, List.getLast?_concat]
      counter := by
        have before : ((answers seen).map TouchpadOutput.touched).getLastD false =
            !data.p1.unpressed := by
          rw [tracking.level, Bool.not_not]
        rw [longer, List.map_append, List.map_singleton, touches_concat, level, before,
          Bool.not_not, Bool.true_and]
        cases data.p1.unpressed with
        | true => exact next_counter tracking.counter
        | false => exact tracking.counter
      position := by
        intro last is
        rw [longer, List.filter_append, List.filter_singleton, level, cond_true,
          List.getLast?_concat] at is
        obtain rfl := Option.some.inj is
        have placed := unpack_set (t := { data.p1 with
          counter := if data.p1.unpressed then (data.p1.counter + 1) % 128 else data.p1.counter
          unpressed := false }) tracking.three x.2 y.2
        exact ⟨placed.1.trans x.1, placed.2.trans y.1⟩
      p2 := tracking.p2
      three := by
        simp only [TouchpadXY.setX, TouchpadXY.setY, List.length_set]
        exact tracking.three
      level := by
        rw [longer, List.map_append, List.map_singleton, List.getLastD_concat, level]
        rfl }

theorem tracking_answered (tracking : Tracking seen data) (answered : read.rc = 0) :
    Tracking (seen ++ [read]) { data with p1 := data.p1.touch read.input } := by
  by_cases released : read.input.touchpoints = 0
  · exact tracking_released tracking answered released
  · exact tracking_touched tracking answered released

theorem receive_data (t : Touchpad) (read : I2cRead) :
    (t.receive read).touchpadData =
      if read.rc = 0 then { t.touchpadData with p1 := t.touchpadData.p1.touch read.input }
      else t.touchpadData := by
  by_cases answered : read.rc = 0
  · rw [receive_answered t answered, if_pos answered]
  · unfold Touchpad.receive
    rw [if_pos answered, if_neg answered]
    split
    · rfl
    · split <;> rfl

theorem tracking_poll {s : Polled} (tracking : Tracking s.seen s.touchpad.touchpadData)
    (read : I2cRead) : Tracking (s.poll read).seen (s.poll read).touchpad.touchpadData := by
  have polled := poll_cases s read
  generalize s.poll read = s' at polled
  cases polled with
  | disabled off => exact tracking
  | skipped on early => exact tracking
  | read on due =>
      rw [receive_data]
      by_cases answered : read.rc = 0
      · rw [if_pos answered]
        exact tracking_answered tracking answered
      · rw [if_neg answered]
        exact tracking_failed tracking answered

theorem polled_tracking (reads : List I2cRead) :
    Tracking (polled reads).seen (polled reads).touchpad.touchpadData := by
  induction reads using List.reverseRecOn with
  | nil => exact tracking_init
  | append_singleton reads read ih =>
      rw [polled_concat]
      exact tracking_poll ih read

end Tracking

/-- Every eighth poll reads, unless 130 reads have failed. -/
structure Reading (reads : List I2cRead) (s : Polled) : Prop where
  eighth : s.touchpad.disabled = false → s.seen = dueReads reads
  inside : s.seen <+: dueReads reads
  givenUp : s.touchpad.disabled = true → failures s.seen = 130

theorem polled_reading (reads : List I2cRead) : Reading reads (polled reads) := by
  have counting := polled_counting reads
  refine ⟨counting.seen, ?_, ?_⟩
  · cases off : (polled reads).touchpad.disabled with
    | true => exact (counting.off off).1
    | false => exact counting.seen off ▸ List.prefix_rfl
  · intro off
    obtain ⟨-, earlier, last, seen, failed, count⟩ := counting.off off
    rw [seen, failures_concat, count, if_pos failed]

/-- What the touchpad reports follows the answers of the sensor, which every eighth poll reads
until it is given up; seven polls of eight, and every failing read, leave it alone. -/
theorem touchpad_tracks (reads : List I2cRead) :
    Reading reads (polled reads) ∧
      Tracks (polled reads).seen (polled reads).touchpad.touchpadData ∧
      ∀ read, read.rc ≠ 0 ∨ reads.length % 8 ≠ 7 →
        ((polled reads).touchpad.inputTouchpadPoll read).touchpadData =
          (polled reads).touchpad.touchpadData := by
  refine ⟨polled_reading reads, (polled_tracking reads).toTracks, ?_⟩
  intro read idle
  have counting := polled_counting reads
  have cases := poll_cases (polled reads) read
  have same : ((polled reads).poll read).touchpad =
      (polled reads).touchpad.inputTouchpadPoll read := rfl
  rw [← same]
  generalize (polled reads).poll read = s at cases
  cases cases with
  | disabled off => rfl
  | skipped on early => rfl
  | read on due =>
      rw [receive_data]
      rcases idle with failed | early
      · rw [if_neg failed]
      · have counter := counting.counter on
        have sum := congrArg UInt8.toNat due
        rw [UInt8.toNat_add, counter] at sum
        have one : (1 : UInt8).toNat = 1 := rfl
        have eight : (8 : UInt8).toNat = 8 := rfl
        omega

end PassingLink.Input
