import PassingLink.Input.Types
import PassingLink.Lib.BitFields
import PassingLink.Lib.Runs

/-! The touchpad of the Panthera, `panthera.cpp`: what the polls make of the sensor's answers. -/
namespace PassingLink.Input
open Lib

/-! ### Coordinates -/

/-- A touch as the sensor sends it: two bit-fields in each byte, the first of them low. -/
structure TouchpadXYFormat where
  byte0 : UInt8
  byte1 : UInt8
  byte2 : UInt8
  deriving DecidableEq, Repr

def TouchpadXYFormat.xh (p : TouchpadXYFormat) : UInt8 := p.byte0 &&& 0x0f
def TouchpadXYFormat.yh (p : TouchpadXYFormat) : UInt8 := p.byte0 >>> 4
def TouchpadXYFormat.xl (p : TouchpadXYFormat) : UInt8 := p.byte1 &&& 0x0f
def TouchpadXYFormat.xm (p : TouchpadXYFormat) : UInt8 := p.byte1 >>> 4
def TouchpadXYFormat.yl (p : TouchpadXYFormat) : UInt8 := p.byte2 &&& 0x0f
def TouchpadXYFormat.ym (p : TouchpadXYFormat) : UInt8 := p.byte2 >>> 4

/-- `h << 8 | m << 4 | l`. -/
def fromNibbles (h m l : UInt8) : UInt16 :=
  h.toUInt16 <<< 8 ||| m.toUInt16 <<< 4 ||| l.toUInt16

def TouchpadXY.setX (t : TouchpadXY) (x : UInt16) : TouchpadXY :=
  let data := t.data.set 0 (x &&& 0xff).toUInt8
  { t with data := data.set 1 (data.getD 1 0 &&& (0xf0 : UInt8) ||| UInt16.toUInt8 (x >>> 8 &&& 0xf)) }

def TouchpadXY.setY (t : TouchpadXY) (y : UInt16) : TouchpadXY :=
  let data := t.data.set 1 (t.data.getD 1 0 &&& (0x0f : UInt8) ||| UInt16.toUInt8 ((y &&& 0xf) <<< 4))
  { t with data := data.set 2 (y >>> 4).toUInt8 }

/-- The first 12 bits of `data`. -/
def TouchpadXY.x (t : TouchpadXY) : Nat := bitsAt (ofBytes t.data) 0 12

/-- The other 12 bits of `data`. -/
def TouchpadXY.y (t : TouchpadXY) : Nat := bitsAt (ofBytes t.data) 12 12

theorem and_low_nibble (a : UInt8) : (a &&& 0x0f).toNat = a.toNat % 16 := by
  rw [UInt8.toNat_and]
  exact Nat.and_two_pow_sub_one_eq_mod a.toNat 4

theorem shift_high_nibble (a : UInt8) : (a >>> 4).toNat = a.toNat / 16 := by
  rw [UInt8.toNat_shiftRight]
  exact Nat.shiftRight_eq_div_pow a.toNat 4

theorem or_shifted {high low : Nat} {width : Nat} (fits : low < 2 ^ width) :
    high <<< width ||| low = 2 ^ width * high + low := by
  rw [Nat.shiftLeft_eq, Nat.mul_comm, Nat.two_pow_add_eq_or_of_lt fits]

theorem fromNibbles_toNat {h m l : UInt8} (hFits : h.toNat < 16) (mFits : m.toNat < 16)
    (lFits : l.toNat < 16) :
    (fromNibbles h m l).toNat = 256 * h.toNat + 16 * m.toNat + l.toNat := by
  have shift8 : (h.toUInt16 <<< 8).toNat = h.toNat <<< 8 := by
    rw [UInt16.toNat_shiftLeft, UInt8.toNat_toUInt16]
    have fits : h.toNat <<< 8 < 2 ^ 16 := by
      rw [Nat.shiftLeft_eq]
      omega
    exact Nat.mod_eq_of_lt fits
  have shift4 : (m.toUInt16 <<< 4).toNat = m.toNat <<< 4 := by
    rw [UInt16.toNat_shiftLeft, UInt8.toNat_toUInt16]
    have fits : m.toNat <<< 4 < 2 ^ 16 := by
      rw [Nat.shiftLeft_eq]
      omega
    exact Nat.mod_eq_of_lt fits
  have middle : m.toNat <<< 4 ||| l.toNat = 2 ^ 4 * m.toNat + l.toNat := or_shifted lFits
  rw [fromNibbles, UInt16.toNat_or, UInt16.toNat_or, shift8, shift4, UInt8.toNat_toUInt16,
    Nat.or_assoc, middle, or_shifted (by omega)]
  omega

theorem and_low_nibble16 (a : UInt16) : (a &&& 0xf).toNat = a.toNat % 16 := by
  rw [UInt16.toNat_and]
  exact Nat.and_two_pow_sub_one_eq_mod a.toNat 4

/-- The byte that the two coordinates share: `set_y` keeps what `set_x` has left in the low half,
and what was in the byte before is gone. -/
theorem shared_byte (old : UInt8) (x y : UInt16) :
    ((old &&& (0xf0 : UInt8) ||| UInt16.toUInt8 (x >>> 8 &&& 0xf)) &&& (0x0f : UInt8) |||
      UInt16.toUInt8 ((y &&& 0xf) <<< 4)).toNat = x.toNat / 256 % 16 + 16 * (y.toNat % 16) := by
  have low : (UInt16.toUInt8 (x >>> 8 &&& 0xf)).toNat = x.toNat / 256 % 16 := by
    have shifted : (x >>> 8).toNat = x.toNat / 256 := by
      rw [UInt16.toNat_shiftRight]
      exact Nat.shiftRight_eq_div_pow x.toNat 8
    rw [UInt16.toNat_toUInt8, and_low_nibble16, shifted]
    exact Nat.mod_eq_of_lt (Nat.lt_trans (Nat.mod_lt _ (by decide)) (by decide))
  have high : (UInt16.toUInt8 ((y &&& 0xf) <<< 4)).toNat = (y.toNat % 16) <<< 4 := by
    have fits : (y.toNat % 16) <<< 4 < 2 ^ 8 := by
      rw [Nat.shiftLeft_eq]
      omega
    rw [UInt16.toNat_toUInt8, UInt16.toNat_shiftLeft, and_low_nibble16]
    exact (congrArg (· % 2 ^ 8) (Nat.mod_eq_of_lt (Nat.lt_trans fits (by decide)))).trans
      (Nat.mod_eq_of_lt fits)
  have cleared : (old &&& (0xf0 : UInt8) ||| UInt16.toUInt8 (x >>> 8 &&& 0xf)) &&& (0x0f : UInt8) =
      UInt16.toUInt8 (x >>> 8 &&& 0xf) &&& (0x0f : UInt8) := by
    have disjoint : old &&& (0xf0 : UInt8) &&& (0x0f : UInt8) = 0 := by
      rw [UInt8.and_assoc]
      exact UInt8.and_zero
    have distributed (a b c : UInt8) : (a ||| b) &&& c = a &&& c ||| b &&& c :=
      UInt8.eq_of_toBitVec_eq BitVec.and_or_distrib_right
    rw [distributed, disjoint, UInt8.zero_or]
  have small : x.toNat / 256 % 16 < 2 ^ 4 := Nat.mod_lt _ (by decide)
  rw [UInt8.toNat_or, high, cleared, and_low_nibble, low, Nat.mod_mod, Nat.or_comm,
    or_shifted small]
  exact Nat.add_comm _ _

theorem ofBytes_three (a b c : UInt8) :
    ofBytes [a, b, c] = a.toNat + 256 * (b.toNat + 256 * c.toNat) := rfl

theorem unpack_set {t : TouchpadXY} (three : t.data.length = 3) {x y : UInt16}
    (xFits : x.toNat < 4096) (yFits : y.toNat < 4096) :
    ((t.setX x).setY y).x = x.toNat ∧ ((t.setX x).setY y).y = y.toNat := by
  obtain ⟨a, b, c, data⟩ := List.length_eq_three.mp three
  have first : (UInt16.toUInt8 (x &&& 0xff)).toNat = x.toNat % 256 := by
    rw [UInt16.toNat_toUInt8, UInt16.toNat_and]
    have masked : x.toNat &&& 255 = x.toNat % 256 := Nat.and_two_pow_sub_one_eq_mod x.toNat 8
    exact (congrArg (· % 2 ^ 8) masked).trans (Nat.mod_mod _ _)
  have third : (UInt16.toUInt8 (y >>> 4)).toNat = y.toNat / 16 := by
    rw [UInt16.toNat_toUInt8, UInt16.toNat_shiftRight]
    have shifted : y.toNat >>> 4 = y.toNat / 16 := Nat.shiftRight_eq_div_pow y.toNat 4
    exact (congrArg (· % 2 ^ 8) shifted).trans (Nat.mod_eq_of_lt (by omega))
  have packed : ofBytes ((t.setX x).setY y).data = x.toNat + 4096 * y.toNat := by
    simp only [TouchpadXY.setX, TouchpadXY.setY, data, List.set_cons_zero, List.set_cons_succ,
      List.getD_cons_succ, List.getD_cons_zero]
    rw [ofBytes_three, first, shared_byte, third]
    omega
  unfold TouchpadXY.x TouchpadXY.y bitsAt
  rw [packed]
  omega

/-! ### The polls -/

/-- The members of the sensor's answer that are read. -/
structure TouchpadOutput where
  touchpoints : UInt8
  p1 : TouchpadXYFormat
  deriving DecidableEq, Repr

/-- What `i2c_write_read` returns, with the buffer it has filled. -/
structure I2cRead where
  rc : Int
  input : TouchpadOutput
  deriving DecidableEq, Repr

/-- The static variables of `panthera.cpp`, and `touchpad_data`. -/
structure Touchpad where
  succeededOnce : Bool
  disabled : Bool
  attempts : UInt8
  counter : UInt8
  touchpadData : TouchpadData
  deriving DecidableEq, Repr

/-- After `input_touchpad_init`. -/
def Touchpad.init : Touchpad where
  succeededOnce := false
  disabled := false
  attempts := 0
  counter := 0
  touchpadData := ⟨⟨0, true, [0, 0, 0]⟩, ⟨0, true, [0, 0, 0]⟩⟩

def TouchpadXY.touch (t : TouchpadXY) (input : TouchpadOutput) : TouchpadXY :=
  let t := if input.touchpoints = 0 then { t with unpressed := true } else t
  if 1 ≤ input.touchpoints then
    let t :=
      if t.unpressed then { t with counter := (t.counter + 1) % 128, unpressed := false } else t
    (t.setX (fromNibbles input.p1.xh input.p1.xm input.p1.xl)).setY
      (fromNibbles input.p1.yh input.p1.ym input.p1.yl)
  else { t with unpressed := true }

/-- `input_touchpad_poll` from the read on. -/
def Touchpad.receive (t : Touchpad) (read : I2cRead) : Touchpad :=
  if read.rc ≠ 0 then
    if t.succeededOnce then t
    else if 128 < t.attempts then { t with attempts := t.attempts + 1, disabled := true }
    else { t with attempts := t.attempts + 1 }
  else { t with touchpadData := { t.touchpadData with p1 := t.touchpadData.p1.touch read.input } }

def Touchpad.inputTouchpadPoll (t : Touchpad) (read : I2cRead) : Touchpad :=
  if t.disabled then t
  else if t.counter + 1 = 8 then { t with counter := 0 }.receive read
  else { t with counter := t.counter + 1 }

/-- The touchpad with the reads that its polls have made, oldest first. -/
structure Polled where
  touchpad : Touchpad
  seen : List I2cRead
  deriving DecidableEq, Repr

def Polled.init : Polled := ⟨Touchpad.init, []⟩

def Polled.poll (s : Polled) (read : I2cRead) : Polled where
  touchpad := s.touchpad.inputTouchpadPoll read
  seen := if s.touchpad.disabled ∨ s.touchpad.counter + 1 ≠ 8 then s.seen else s.seen ++ [read]

def polled (reads : List I2cRead) : Polled := run Polled.poll Polled.init reads

theorem polled_concat (reads : List I2cRead) (read : I2cRead) :
    polled (reads ++ [read]) = (polled reads).poll read := by
  rw [polled, run_append]
  rfl

/-- The outcomes at every eighth poll. -/
def dueReads (reads : List I2cRead) : List I2cRead :=
  (reads.zipIdx.filter fun poll => poll.2 % 8 = 7).map Prod.fst

theorem dueReads_concat (reads : List I2cRead) (read : I2cRead) :
    dueReads (reads ++ [read]) =
      if reads.length % 8 = 7 then dueReads reads ++ [read] else dueReads reads := by
  unfold dueReads
  rw [List.zipIdx_append, List.filter_append, List.map_append]
  split
  · rename_i due
    simp only [List.zipIdx_cons, List.zipIdx_nil, List.filter_cons, Nat.zero_add, due, decide_true,
      if_true, List.filter_nil, List.map_cons, List.map_nil]
  · rename_i skipped
    simp only [List.zipIdx_cons, List.zipIdx_nil, List.filter_cons, Nat.zero_add, skipped,
      decide_false, Bool.false_eq_true, if_false, List.filter_nil, List.map_nil, List.append_nil]

/-! ### What one poll does -/

inductive PollCase (s : Polled) (read : I2cRead) : Polled → Prop where
  | disabled (off : s.touchpad.disabled = true) : PollCase s read s
  | skipped (on : s.touchpad.disabled = false) (early : s.touchpad.counter + 1 ≠ 8) :
      PollCase s read ⟨{ s.touchpad with counter := s.touchpad.counter + 1 }, s.seen⟩
  | read (on : s.touchpad.disabled = false) (due : s.touchpad.counter + 1 = 8) :
      PollCase s read ⟨{ s.touchpad with counter := 0 }.receive read, s.seen ++ [read]⟩

theorem poll_cases (s : Polled) (read : I2cRead) : PollCase s read (s.poll read) := by
  unfold Polled.poll Touchpad.inputTouchpadPoll
  by_cases off : s.touchpad.disabled = true
  · rw [if_pos off, if_pos (Or.inl off)]
    exact .disabled off
  · have on : s.touchpad.disabled = false := Bool.not_eq_true _ ▸ off
    rw [if_neg off]
    by_cases due : s.touchpad.counter + 1 = 8
    · rw [if_pos due, if_neg (not_or.mpr ⟨off, not_not.mpr due⟩)]
      exact .read on due
    · rw [if_neg due, if_pos (Or.inr due)]
      exact .skipped on due

theorem receive_failed {t : Touchpad} (unheard : t.succeededOnce = false) {read : I2cRead}
    (failed : read.rc ≠ 0) :
    t.receive read =
      { t with attempts := t.attempts + 1, disabled := decide (128 < t.attempts) || t.disabled } := by
  unfold Touchpad.receive
  rw [if_pos failed, unheard, if_neg Bool.false_ne_true]
  split
  · rename_i many
    simp only [many, decide_true, Bool.true_or]
  · rename_i few
    simp only [few, decide_false, Bool.false_or]

theorem receive_answered (t : Touchpad) {read : I2cRead} (answered : read.rc = 0) :
    t.receive read =
      { t with touchpadData := { t.touchpadData with p1 := t.touchpadData.p1.touch read.input } } := by
  unfold Touchpad.receive
  rw [if_neg (not_not.mpr answered)]

/-! ### Giving up -/

def I2cRead.failed (read : I2cRead) : Bool := read.rc ≠ 0

def failures (reads : List I2cRead) : Nat := reads.countP I2cRead.failed

/-- Only failures are counted, and nothing is ever recorded as a success. -/
structure Counting (reads : List I2cRead) (s : Polled) : Prop where
  unheard : s.touchpad.succeededOnce = false
  counter : s.touchpad.disabled = false → s.touchpad.counter.toNat = reads.length % 8
  seen : s.touchpad.disabled = false → s.seen = dueReads reads
  attempts : s.touchpad.disabled = false → s.touchpad.attempts.toNat = failures s.seen
  few : s.touchpad.disabled = false → failures s.seen < 130
  off : s.touchpad.disabled = true → s.seen <+: dueReads reads ∧
    ∃ earlier last, s.seen = earlier ++ [last] ∧ last.rc ≠ 0 ∧ failures earlier = 129

theorem failures_concat (reads : List I2cRead) (read : I2cRead) :
    failures (reads ++ [read]) = failures reads + if read.rc ≠ 0 then 1 else 0 := by
  unfold failures
  rw [List.countP_append, List.countP_singleton]
  simp only [I2cRead.failed, decide_eq_true_eq]

theorem counting_init : Counting [] Polled.init where
  unheard := rfl
  counter := fun _ => rfl
  seen := fun _ => rfl
  attempts := fun _ => rfl
  few := fun _ => by decide
  off := fun off => absurd off (by decide)

section Counting
variable {reads : List I2cRead} {s : Polled}

theorem dueReads_longer (reads : List I2cRead) (read : I2cRead) :
    dueReads reads <+: dueReads (reads ++ [read]) := by
  rw [dueReads_concat]
  split
  · exact List.prefix_append _ _
  · exact List.prefix_rfl

theorem counting_disabled (counting : Counting reads s) (read : I2cRead)
    (off : s.touchpad.disabled = true) : Counting (reads ++ [read]) s := by
  have stays {P : Prop} (on : s.touchpad.disabled = false) : P := by
    rw [off] at on
    cases on
  obtain ⟨inside, last⟩ := counting.off off
  exact
    { unheard := counting.unheard
      counter := stays
      seen := stays
      attempts := stays
      few := stays
      off := fun _ => ⟨inside.trans (dueReads_longer reads read), last⟩ }

theorem counting_skipped (counting : Counting reads s) (read : I2cRead)
    (on : s.touchpad.disabled = false) (early : s.touchpad.counter + 1 ≠ 8) :
    Counting (reads ++ [read])
      ⟨{ s.touchpad with counter := s.touchpad.counter + 1 }, s.seen⟩ := by
  have counter := counting.counter on
  have one : (1 : UInt8).toNat = 1 := rfl
  have below : s.touchpad.counter.toNat ≠ 7 := by
    intro seven
    apply early
    rw [← UInt8.toNat_inj, UInt8.toNat_add, seven]
    rfl
  have skips : ¬ reads.length % 8 = 7 := by omega
  exact
    { unheard := counting.unheard
      counter := fun _ => by
        rw [UInt8.toNat_add, List.length_append, List.length_singleton]
        omega
      seen := fun _ => by
        rw [dueReads_concat, if_neg skips]
        exact counting.seen on
      attempts := fun _ => counting.attempts on
      few := fun _ => counting.few on
      off := fun off => absurd (on.symm.trans off) Bool.false_ne_true }

/-- A poll that reads is one of the polls at which a read is due. -/
theorem due_length (counting : Counting reads s) (on : s.touchpad.disabled = false)
    (due : s.touchpad.counter + 1 = 8) : reads.length % 8 = 7 := by
  have counter := counting.counter on
  have seven : s.touchpad.counter.toNat = 7 := by
    have sum := congrArg UInt8.toNat due
    have one : (1 : UInt8).toNat = 1 := rfl
    have eight : (8 : UInt8).toNat = 8 := rfl
    rw [UInt8.toNat_add] at sum
    omega
  omega

theorem seen_read (counting : Counting reads s) (read : I2cRead)
    (on : s.touchpad.disabled = false) (reading : reads.length % 8 = 7) :
    s.seen ++ [read] = dueReads (reads ++ [read]) := by
  rw [dueReads_concat, if_pos reading, counting.seen on]

theorem restart_counter (read : I2cRead) (reading : reads.length % 8 = 7) :
    (0 : UInt8).toNat = (reads ++ [read]).length % 8 := by
  have zero : (0 : UInt8).toNat = 0 := rfl
  rw [List.length_append, List.length_singleton]
  omega

theorem counting_answered (counting : Counting reads s) {read : I2cRead}
    (on : s.touchpad.disabled = false) (reading : reads.length % 8 = 7) (answered : read.rc = 0) :
    Counting (reads ++ [read])
      ⟨{ s.touchpad with counter := 0 }.receive read, s.seen ++ [read]⟩ := by
  have same : failures (s.seen ++ [read]) = failures s.seen := by
    rw [failures_concat, if_neg (not_not.mpr answered), Nat.add_zero]
  rw [receive_answered _ answered]
  exact
    { unheard := counting.unheard
      counter := fun _ => restart_counter read reading
      seen := fun _ => seen_read counting read on reading
      attempts := fun _ => (counting.attempts on).trans same.symm
      few := fun _ => Nat.lt_of_le_of_lt (Nat.le_of_eq same) (counting.few on)
      off := fun off => absurd (on.symm.trans off) Bool.false_ne_true }

/-- The failure that finds 129 earlier ones gives the touchpad up. -/
theorem counting_failed (counting : Counting reads s) {read : I2cRead}
    (on : s.touchpad.disabled = false) (reading : reads.length % 8 = 7) (failed : read.rc ≠ 0) :
    Counting (reads ++ [read])
      ⟨{ s.touchpad with counter := 0 }.receive read, s.seen ++ [read]⟩ := by
  have attempts := counting.attempts on
  have few := counting.few on
  have seen := seen_read counting read on reading
  have more : failures (s.seen ++ [read]) = failures s.seen + 1 := by
    rw [failures_concat, if_pos failed]
  have counted : (s.touchpad.attempts + 1).toNat = failures s.seen + 1 := by
    rw [UInt8.toNat_add, attempts]
    exact Nat.mod_eq_of_lt (Nat.lt_of_le_of_lt few (by decide))
  have limit : 128 < s.touchpad.attempts ↔ 128 < failures s.seen := by
    rw [UInt8.lt_iff_toNat_lt, attempts]
    exact Iff.rfl
  have disabled : (decide (128 < s.touchpad.attempts) || s.touchpad.disabled) =
      decide (128 < failures s.seen) := by
    rw [on, Bool.or_false, decide_eq_decide]
    exact limit
  have receives := @receive_failed { s.touchpad with counter := 0 } counting.unheard read failed
  dsimp only at receives
  rw [disabled] at receives
  rw [receives]
  exact
    { unheard := counting.unheard
      counter := fun _ => restart_counter read reading
      seen := fun _ => seen
      attempts := fun _ => counted.trans more.symm
      few := fun on => by
        have below : ¬ 128 < failures s.seen := of_decide_eq_false on
        dsimp only
        omega
      off := fun off => by
        have limit : 128 < failures s.seen := of_decide_eq_true off
        refine ⟨seen ▸ List.prefix_rfl, s.seen, read, rfl, failed, ?_⟩
        omega }

theorem counting_read (counting : Counting reads s) (read : I2cRead)
    (on : s.touchpad.disabled = false) (due : s.touchpad.counter + 1 = 8) :
    Counting (reads ++ [read])
      ⟨{ s.touchpad with counter := 0 }.receive read, s.seen ++ [read]⟩ := by
  have reading := due_length counting on due
  by_cases answered : read.rc = 0
  · exact counting_answered counting on reading answered
  · exact counting_failed counting on reading answered

theorem counting_poll (counting : Counting reads s) (read : I2cRead) :
    Counting (reads ++ [read]) (s.poll read) := by
  have polled := poll_cases s read
  generalize s.poll read = s' at polled
  cases polled with
  | disabled off => exact counting_disabled counting read off
  | skipped on early => exact counting_skipped counting read on early
  | read on due => exact counting_read counting read on due

end Counting

theorem polled_counting (reads : List I2cRead) : Counting reads (polled reads) := by
  induction reads using List.reverseRecOn with
  | nil => exact counting_init
  | append_singleton reads read ih =>
      rw [polled_concat]
      exact counting_poll ih read

theorem failures_of_all {reads : List I2cRead} (failed : ∀ read ∈ reads, read.rc ≠ 0) :
    failures reads = reads.length := by
  apply List.countP_eq_length.mpr
  intro read member
  exact decide_eq_true (failed read member)

theorem failures_le {reads longer : List I2cRead} (inside : reads <+: longer) :
    failures reads ≤ failures longer :=
  inside.sublist.countP_le

theorem dueReads_prefix {before reads : List I2cRead} (inside : before <+: reads) :
    dueReads before <+: dueReads reads := by
  obtain ⟨rest, rfl⟩ := inside
  induction rest using List.reverseRecOn with
  | nil => rw [List.append_nil]
  | append_singleton rest read ih =>
      rw [← List.append_assoc]
      exact ih.trans (dueReads_longer _ read)

/-- A touchpad that is given up has never answered. -/
def GivenUpUnheard (reads : List I2cRead) : Prop :=
  ∀ before, before <+: reads → (polled before).touchpad.disabled = true →
    ∀ read ∈ (polled before).seen, read.rc ≠ 0

/-- The reads of a touchpad that is given up after 130 failures in a row from the start are
these failures. -/
theorem seen_of_silent {reads : List I2cRead} (off : (polled reads).touchpad.disabled = true)
    (silent : ∀ read ∈ (dueReads reads).take 130, read.rc ≠ 0) :
    (polled reads).seen = (dueReads reads).take 130 := by
  obtain ⟨inside, earlier, last, seen, -, count⟩ := (polled_counting reads).off off
  have fewer : earlier.length ≤ 129 := by
    by_contra more
    have inside' : earlier.take 130 <+: (dueReads reads).take 130 := by
      apply List.IsPrefix.take
      rw [seen] at inside
      exact (List.prefix_append _ _).trans inside
    have failed (read : I2cRead) (member : read ∈ earlier.take 130) : read.rc ≠ 0 :=
      silent read (inside'.subset member)
    have all := failures_of_all failed
    have few := failures_le (List.take_prefix 130 earlier)
    rw [all, List.length_take] at few
    omega
  have enough : failures earlier ≤ earlier.length := List.countP_le_length
  have length : (polled reads).seen.length = 130 := by
    rw [seen, List.length_append, List.length_singleton]
    omega
  rw [List.prefix_iff_eq_take.mp inside, length]

/-- Since a success is never recorded, the 130th failure gives the touchpad up, whatever came
before it. -/
theorem givenUpUnheard_iff (reads : List I2cRead) :
    GivenUpUnheard reads ↔
      failures (dueReads reads) < 130 ∨ ∀ read ∈ (dueReads reads).take 130, read.rc ≠ 0 := by
  constructor
  · intro unheard
    by_cases few : failures (dueReads reads) < 130
    · exact Or.inl few
    · right
      have counting := polled_counting reads
      have off : (polled reads).touchpad.disabled = true := by
        by_contra on
        have on : (polled reads).touchpad.disabled = false := Bool.not_eq_true _ ▸ on
        have below := counting.few on
        rw [counting.seen on] at below
        exact few below
      have failed := unheard reads List.prefix_rfl off
      obtain ⟨inside, earlier, last, seen, -, count⟩ := counting.off off
      have lengthEarlier : earlier.length = 129 := by
        rw [← count, failures_of_all]
        intro read member
        apply failed
        rw [seen]
        exact List.mem_append_left _ member
      have length : (polled reads).seen.length = 130 := by
        rw [seen, List.length_append, lengthEarlier, List.length_singleton]
      rw [← length, ← List.prefix_iff_eq_take.mp inside]
      exact failed
  · intro condition before inside off
    have within := dueReads_prefix inside
    obtain ⟨seenInside, earlier, last, seen, lastFailed, count⟩ := (polled_counting before).off off
    rcases condition with few | silent
    · have many : failures (polled before).seen = 130 := by
        rw [seen, failures_concat, count, if_pos lastFailed]
      have bounded := failures_le (seenInside.trans within)
      omega
    · have silentBefore : ∀ read ∈ (dueReads before).take 130, read.rc ≠ 0 := by
        intro read member
        exact silent read ((within.take 130).subset member)
      rw [seen_of_silent off silentBefore]
      exact silentBefore

def answer : TouchpadOutput := ⟨0, ⟨0, 0, 0⟩⟩

/-- One answered read, then 130 that fail. -/
def answeredOnce : List I2cRead :=
  List.replicate 8 ⟨0, answer⟩ ++ List.replicate 1040 ⟨-5, answer⟩

theorem answered_given_up : ¬ GivenUpUnheard answeredOnce := by
  intro unheard
  have off : (polled answeredOnce).touchpad.disabled = true := by decide +kernel
  have answered : ⟨0, answer⟩ ∈ (polled answeredOnce).seen := by decide +kernel
  exact unheard answeredOnce List.prefix_rfl off _ answered rfl

end PassingLink.Input
