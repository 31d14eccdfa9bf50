import PassingLink.Input.Building
import PassingLink.Input.Shell
import PassingLink.Opt.Gundam

/-! `current_cam` against the stick presses that the console has been shown, over any run of
the callers of the queue. -/
namespace PassingLink.Opt
open Lib Input

/-! ### The runs -/

/-- A press of stick up counts one up, a press of stick down one down. -/
def push (state : RawInputState) : Int :=
  (if state .stickUp then 1 else 0) - (if state .stickDown then 1 else 0)

inductive CameraEvent where
  | resetCam (x : UInt8)
  | setCam (x : UInt8) (now : Nat)
  | home (now : Nat)
  | poll (now : Nat)
  /-- A call by another owner of nodes, which occupies or gives back some of the storage. -/
  | other (call : QueueCall)

/-- The camera with the chains of the other owners; whether the chain that was activated last
is one of `adjust_cam`; the last `reset_cam`, and what has been delivered since. -/
structure Tracked where
  gundam : Gundam
  owned : List (List NodeRef)
  camera : Bool
  base : Int
  delivered : Int

namespace Tracked
variable (ticksPerSec : Nat) (t : Tracked)

def boot : Tracked := ⟨Gundam.boot, [], false, 1, 0⟩

/-- The press that a poll delivers from a chain of `adjust_cam`. -/
def delivers (now : Nat) : Int :=
  match t.gundam.queue.next with
  | some p =>
      if t.camera ∧ t.gundam.queue.nextTick < now then push (t.gundam.queue.storage p).state
      else 0
  | none => 0

/-- The presses that a chain of `adjust_cam` has still to deliver. -/
def pending : Int :=
  if t.camera then
    ((follow t.gundam.queue.link queueStorageSize t.gundam.queue.next).map fun r =>
      push (t.gundam.queue.storage r).state).sum
  else 0

/-- The storage as the other owners see it. -/
def others : Owned := ⟨t.gundam.queue, t.owned, []⟩

def step : CameraEvent → Tracked
  | .resetCam x => { t with gundam := t.gundam.resetCam x, base := x.toNat, delivered := 0 }
  | .setCam x now =>
      { t with
        gundam := (t.gundam.setCam ticksPerSec x true now).2
        camera := if inputQueueIsActive t.gundam.queue then t.camera else true }
  | .home now =>
      let (printed, queue) := cmdInputHome ticksPerSec t.gundam.queue now
      { t with
        gundam := { t.gundam with queue }
        camera := if printed = none then false else t.camera }
  | .poll now =>
      { t with
        gundam := { t.gundam with queue := (inputQueueGetState t.gundam.queue now).2 }
        delivered := t.delivered + t.delivers now }
  | .other call =>
      let others := t.others.step call
      { t with gundam := { t.gundam with queue := others.queue }, owned := others.owned }

/-- The other owners keep to the rules, and activate nothing. -/
def Legal : CameraEvent → Prop
  | .other call => t.others.Legal call ∧ call.Elsewhere
  | _ => True

/-- `reset_cam` and home come when no press is left to deliver, or there are no two nodes for
home; `set_cam` finds a queue active, or the camera there already, or asks for a difference
that is an `int8_t` and for no more nodes than there are. -/
def Keeps : CameraEvent → Prop
  | .resetCam _ => t.pending = 0
  | .setCam x _ =>
      let difference : Int := x.toNat - t.gundam.currentCam.toNat
      t.gundam.queue.next ≠ none ∨ x = t.gundam.currentCam ∨
        (-128 ≤ difference ∧ difference ≤ 127) ∧
          2 * difference.natAbs + 1 ≤ t.gundam.queue.unused
  | .home _ => t.pending = 0 ∨ t.gundam.queue.unused < 2
  | .poll _ | .other _ => True

def GivesUp (x : UInt8) (now : Nat) : Prop := (t.gundam.setCam ticksPerSec x true now).1 ≠ none

/-- With no queue active, the camera is where it was last put, moved by what has been
delivered since; and a `set_cam` that gives up has not moved it. -/
structure Tracks (e : CameraEvent) : Prop where
  camera : (t.step ticksPerSec e).gundam.queue.next = none →
    ((t.step ticksPerSec e).gundam.currentCam.toNat : Int) =
      (t.step ticksPerSec e).base + (t.step ticksPerSec e).delivered
  stays : ∀ x now, e = .setCam x now → t.GivesUp ticksPerSec x now →
    (t.step ticksPerSec e).gundam.currentCam = t.gundam.currentCam

/-- A `set_cam` that gives up leaves the active queue as it was, and leaks no node. -/
structure Returns (e : CameraEvent) : Prop where
  active : ∀ x now, e = .setCam x now → t.GivesUp ticksPerSec x now →
    t.gundam.queue.next ≠ none → (t.step ticksPerSec e).gundam.queue = t.gundam.queue
  idle : ∀ x now, e = .setCam x now → t.GivesUp ticksPerSec x now →
    t.gundam.queue.next = none → (t.step ticksPerSec e).gundam.queue.next = none
  nodes : ∀ x now, e = .setCam x now → t.GivesUp ticksPerSec x now →
    ∀ r, (t.step ticksPerSec e).gundam.queue.used r = t.gundam.queue.used r

end Tracked

/-! ### What the callers of the queue build -/

section Callers
variable (ticksPerSec : Nat) {s : Owned}

/-- Home either finds no two nodes, or its chain is played from now on. -/
theorem cmdInputHome_cases (sound : s.Sound) (now : Nat) :
    (∃ text, (cmdInputHome ticksPerSec s.queue now).1 = some text ∧ s.queue.unused < 2 ∧
        GaveBack s (cmdInputHome ticksPerSec s.queue now).2) ∨
      (cmdInputHome ticksPerSec s.queue now).1 = none ∧ 2 ≤ s.queue.unused ∧
        ∃ m chain,
          Playing m chain 0 ⟨(cmdInputHome ticksPerSec s.queue now).2, s.owned, chain⟩ := by
  unfold cmdInputHome
  rcases building_alloc sound with ⟨full, unused⟩ | ⟨head, q, allocated, building⟩
  · rw [full]
    exact Or.inl ⟨_, rfl, by omega, gaveBack_refl sound⟩
  · rw [allocated]
    have first := building.unused sound
    rw [List.length_singleton] at first
    dsimp only
    rcases building.append (Function.update RawInputState.released .buttonHome true)
      (kUsToTicksCeil64 ticksPerSec 33333) with ⟨full, unused⟩ | ⟨next, q', appended, building'⟩
    · rw [full]
      have filled := (building.fill (Function.update RawInputState.released .buttonHome true)
        (kUsToTicksCeil64 ticksPerSec 33333)).1
      have left := filled.unused sound
      rw [List.length_singleton] at left
      exact Or.inl ⟨_, rfl, by omega, filled.free sound⟩
    · rw [appended]
      have second := building'.unused sound
      rw [List.length_append, List.length_singleton, List.length_singleton] at second
      have playing := building'.activate RawInputState.released
        (kUsToTicksCeil64 ticksPerSec 33333) now
      exact Or.inr ⟨rfl, by omega, _, _, playing⟩

def presses (ticksPerSec : Nat) (up : Bool) : Nat → List (RawInputState × Nat)
  | 0 => []
  | count + 1 =>
      let delay := kUsToTicksCeil64 ticksPerSec 33333
      (pressStick up, delay) :: (RawInputState.released, delay) :: presses ticksPerSec up count

/-- The loop builds all of its presses, or has found fewer nodes than they take. -/
theorem pressLoop_cases (sound : s.Sound) (up : Bool) (count : Nat) {head cur : NodeRef}
    {chain : List NodeRef} {done : List (RawInputState × Nat)} {q : Queue}
    (building : Building s head cur chain done q) :
    (∃ cur' chain' done', (pressLoop ticksPerSec up count q cur).1 = none ∧
        Building s head cur' chain' done' (pressLoop ticksPerSec up count q cur).2 ∧
        s.queue.unused < chain.length + 2 * count) ∨
      ∃ cur' chain', (pressLoop ticksPerSec up count q cur).1 = some cur' ∧
        Building s head cur' chain' (done ++ presses ticksPerSec up count)
          (pressLoop ticksPerSec up count q cur).2 ∧
        chain'.length = chain.length + 2 * count := by
  induction count generalizing cur chain done q with
  | zero =>
      refine Or.inr ⟨cur, chain, rfl, ?_, rfl⟩
      rw [presses, List.append_nil]
      exact building
  | succ count ih =>
      simp only [pressLoop]
      have filled := (building.fill (pressStick up) (kUsToTicksCeil64 ticksPerSec 33333)).1
      rcases building.append (pressStick up) (kUsToTicksCeil64 ticksPerSec 33333) with
        ⟨full, unused⟩ | ⟨next, q', appended, pressed⟩
      · rw [full]
        have left := filled.unused sound
        exact Or.inl ⟨cur, chain, done, rfl, filled, by omega⟩
      · rw [appended]
        dsimp only
        have filled' := (pressed.fill RawInputState.released
          (kUsToTicksCeil64 ticksPerSec 33333)).1
        rcases pressed.append RawInputState.released (kUsToTicksCeil64 ticksPerSec 33333) with
          ⟨full, unused⟩ | ⟨next', q'', appended', released⟩
        · rw [full]
          have left := filled'.unused sound
          rw [List.length_append, List.length_singleton] at left
          exact Or.inl ⟨next, _, _, rfl, filled', by omega⟩
        · rw [appended']
          dsimp only
          rcases ih released with ⟨cur', chain', done', unheld, failed, few⟩ |
            ⟨cur', chain', some, done', length⟩
          · refine Or.inl ⟨cur', chain', done', unheld, failed, ?_⟩
            simp only [List.length_append, List.length_singleton] at few
            omega
          · refine Or.inr ⟨cur', chain', some, ?_, ?_⟩
            · simp only [List.append_assoc, List.singleton_append] at done'
              exact done'
            · simp only [List.length_append, List.length_singleton] at length
              omega

/-- What a call of `adjust_cam` with `record` does, by what it finds. -/
inductive Adjusted (ticksPerSec : Nat) (g : Gundam) (s : Owned) (offset : Int8) :
    Option String × Gundam → Prop
  | active {text} : g.queue.next ≠ none → Adjusted ticksPerSec g s offset (some text, g)
  | still {currentCam} : g.queue.next = none → offset = 0 →
      currentCam = UInt8.ofInt (g.currentCam.toNat + offset.toInt) →
      Adjusted ticksPerSec g s offset (none, ⟨currentCam, g.queue⟩)
  | failed {text currentCam q} : g.queue.next = none → offset ≠ 0 →
      currentCam = UInt8.ofInt (g.currentCam.toNat + offset.toInt) →
      s.queue.unused < 2 * offset.toInt.natAbs + 1 → GaveBack s q →
      Adjusted ticksPerSec g s offset (some text, ⟨currentCam, q⟩)
  | moved {currentCam q now chain} : g.queue.next = none → offset ≠ 0 →
      currentCam = UInt8.ofInt (g.currentCam.toNat + offset.toInt) →
      2 * offset.toInt.natAbs + 1 ≤ s.queue.unused →
      Playing ⟨presses ticksPerSec (decide (0 < offset.toInt)) offset.toInt.natAbs ++
        [(RawInputState.released, 0)], now, s.queue.input⟩ chain 0 ⟨q, s.owned, chain⟩ →
      Adjusted ticksPerSec g s offset (none, ⟨currentCam, q⟩)

theorem adjustCam_cases (sound : s.Sound) {g : Gundam} (same : s.queue = g.queue) (offset : Int8)
    (now : Nat) :
    Adjusted ticksPerSec g s offset (g.adjustCam ticksPerSec offset true now) := by
  unfold Gundam.adjustCam
  by_cases active : inputQueueIsActive g.queue = true
  · rw [if_pos active]
    apply Adjusted.active
    intro idle
    rw [inputQueueIsActive, idle] at active
    cases active
  · have idle : g.queue.next = none := by
      rw [inputQueueIsActive, Option.isSome_iff_ne_none, not_not] at active
      exact active
    rw [if_neg active]
    by_cases zero : offset = 0
    · rw [if_pos zero]
      exact Adjusted.still idle zero rfl
    · rw [if_neg zero, ← same]
      dsimp only
      rcases building_alloc sound with ⟨full, unused⟩ | ⟨head, q, allocated, building⟩
      · rw [full]
        exact Adjusted.failed idle zero rfl (by omega) (gaveBack_refl sound)
      · rw [allocated]
        dsimp only
        rcases pressLoop_cases ticksPerSec sound (decide (0 < offset.toInt)) offset.toInt.natAbs
          building with
          ⟨cur, chain, done, none, failed, few⟩ | ⟨cur, chain, some, built, length⟩
        · rw [List.length_singleton] at few
          generalize pressLoop ticksPerSec _ _ q head = result at none failed
          obtain ⟨result, q'⟩ := result
          subst none
          exact Adjusted.failed idle zero rfl (by omega) (failed.free sound)
        · have taken := built.unused sound
          rw [length, List.length_singleton] at taken
          generalize pressLoop ticksPerSec _ _ q head = result at some built taken
          obtain ⟨result, q'⟩ := result
          subst some
          have playing := built.activate RawInputState.released 0 now
          exact Adjusted.moved idle zero rfl (by omega) playing

end Callers

/-! ### The account -/

/-- The presses that a chain holds from this element on. -/
def left (m : Playback) (k : Nat) : Int :=
  ((m.elements.drop k).map fun element => push element.1).sum

theorem left_succ {m : Playback} {k : Nat} {element : RawInputState × Nat}
    (here : m.elements[k]? = some element) : left m k = push element.1 + left m (k + 1) := by
  obtain ⟨before, there⟩ := List.getElem?_eq_some_iff.mp here
  rw [left, List.drop_eq_getElem_cons before, there, List.map_cons, List.sum_cons]
  rfl

theorem left_over {m : Playback} {k : Nat} (ended : ¬ k < m.elements.length) : left m k = 0 := by
  rw [left, List.drop_eq_nil_of_le (Nat.not_lt.mp ended)]
  rfl

theorem push_pressStick (up : Bool) : push (pressStick up) = if up then 1 else -1 := by
  cases up <;> rfl

theorem sum_presses (ticksPerSec : Nat) (up : Bool) (count : Nat) :
    ((presses ticksPerSec up count).map fun element => push element.1).sum =
      (if up then 1 else -1) * count := by
  have unpushed : push RawInputState.released = 0 := rfl
  induction count with
  | zero => exact (Int.mul_zero _).symm
  | succ count ih =>
      simp only [presses, List.map_cons, List.sum_cons, push_pressStick, unpushed, ih,
        Nat.cast_succ]
      rw [Int.mul_add, Int.mul_one, Int.zero_add, Int.add_comm]

/-- The chain of an offset holds as many presses as it says. -/
theorem left_moved (ticksPerSec : Nat) (offset : Int8) (now : Nat) (stale : RawInputState) :
    left ⟨presses ticksPerSec (decide (0 < offset.toInt)) offset.toInt.natAbs ++
      [(RawInputState.released, 0)], now, stale⟩ 0 = offset.toInt := by
  have unpushed : push RawInputState.released = 0 := rfl
  simp only [left, List.drop_zero, List.map_append, List.sum_append, sum_presses, List.map_cons,
    List.map_nil, List.sum_cons, List.sum_nil, unpushed, Int.add_zero, decide_eq_true_eq]
  split
  · omega
  · omega

/-- The narrowing adds a multiple of 256. -/
theorem narrowed (difference : Int) :
    ∃ c, (Int8.ofInt difference).toInt = difference + 256 * c ∧
      -128 ≤ (Int8.ofInt difference).toInt ∧ (Int8.ofInt difference).toInt ≤ 127 := by
  have spec := (Int.bmod_eq_iff (by decide)).mp (@Int8.toInt_ofInt difference).symm
  obtain ⟨low, high, c, same⟩ := spec
  have size : ((Int8.size : Nat) : Int) = 256 := rfl
  rw [size] at low high same
  exact ⟨c, by omega, by omega, by omega⟩

theorem byte_ofInt {i c : Int} (x : UInt8) (same : i = x.toNat + 256 * c) : UInt8.ofInt i = x := by
  have bound : x.toNat < 256 := x.toNat_lt
  have whole : (i % 2 ^ 8).toNat = x.toNat := by omega
  rw [UInt8.ofInt, whole, UInt8.ofNat_toNat]

section Offset
variable (x cam : UInt8)

/-- Wherever it goes, `current_cam` becomes what was asked for. -/
theorem offset_put : UInt8.ofInt (cam.toNat + (Int8.ofInt (x.toNat - cam.toNat)).toInt) = x := by
  obtain ⟨c, narrow, -⟩ := narrowed (x.toNat - cam.toNat)
  have same : (cam.toNat : Int) + (Int8.ofInt (x.toNat - cam.toNat)).toInt =
      x.toNat + 256 * c := by omega
  exact byte_ofInt x same

theorem offset_zero_iff : Int8.ofInt (x.toNat - cam.toNat) = 0 ↔ x = cam := by
  obtain ⟨c, narrow, low, high⟩ := narrowed (x.toNat - cam.toNat)
  have bound : x.toNat < 256 := x.toNat_lt
  have bound' : cam.toNat < 256 := cam.toNat_lt
  rw [← Int8.toInt_inj, Int8.toInt_zero, narrow, ← UInt8.toNat_inj]
  omega

/-- But the presses are as many only if the difference is an `int8_t`. -/
theorem offset_whole_iff :
    (Int8.ofInt (x.toNat - cam.toNat)).toInt = x.toNat - cam.toNat ↔
      -128 ≤ (x.toNat : Int) - cam.toNat ∧ (x.toNat : Int) - cam.toNat ≤ 127 := by
  obtain ⟨c, narrow, low, high⟩ := narrowed (x.toNat - cam.toNat)
  omega

end Offset

namespace Tracked
variable {ticksPerSec : Nat} {t : Tracked} {m : Playback} {chain consumed : List NodeRef} {k : Nat}

/-- What the queue plays, every chain that it has been given being consumed. -/
structure Plays (t : Tracked) (m : Playback) (chain : List NodeRef) (k : Nat)
    (consumed : List NodeRef) : Prop where
  playing : Playing m chain k ⟨t.gundam.queue, t.owned, consumed⟩
  given : k < m.elements.length → consumed = chain

def Sound (t : Tracked) : Prop := ∃ m chain k consumed, t.Plays m chain k consumed

/-- The camera is where it was put, moved by what was delivered and what is still to come. -/
def Balanced (t : Tracked) : Prop :=
  (t.gundam.currentCam.toNat : Int) = t.base + t.delivered + t.pending

theorem pending_idle (idle : t.gundam.queue.next = none) : t.pending = 0 := by
  rw [pending, idle]
  split
  · rfl
  · rfl

theorem balanced_idle (idle : t.gundam.queue.next = none) :
    t.Balanced ↔ (t.gundam.currentCam.toNat : Int) = t.base + t.delivered := by
  rw [Balanced, pending_idle idle, Int.add_zero]

theorem Plays.pending (plays : t.Plays m chain k consumed) :
    t.pending = if t.camera then left m k else 0 := by
  by_cases before : k < m.elements.length
  · have playing := plays.playing
    have next : t.gundam.queue.next = (chain.drop k).head? := by
      rw [List.head?_drop]
      exact playing.next.trans (if_pos before)
    have linked := playing.sound.linked chain (playing.live before)
    rw [← List.take_append_drop k chain] at linked
    have enough : (chain.drop k).length ≤ queueStorageSize := by
      have single := (List.nodup_flatten.mp playing.sound.distinct).1 chain (playing.live before)
      have fits := single.length_le_card
      rw [Fintype.card_fin] at fits
      rw [List.length_drop]
      omega
    have contents := playing.contents before
    rw [Tracked.pending, next, linked.drop.follow enough, left, ← contents, Input.contents,
      ← List.map_drop, List.map_map]
    rfl
  · have idle : t.gundam.queue.next = none := plays.playing.next.trans (if_neg before)
    rw [pending_idle idle, left_over before, ite_self]

/-- What a poll delivers is what is left less afterwards. -/
theorem Plays.delivers (plays : t.Plays m chain k consumed) (now : Nat) :
    t.delivers now + (if t.camera then left m (m.reached k now) else 0) =
      if t.camera then left m k else 0 := by
  have playing := plays.playing
  by_cases before : k < m.elements.length
  · obtain ⟨p, element, next, here, node, -⟩ := playing.node before
    have state : (t.gundam.queue.storage p).state = element.1 := congrArg Prod.fst node
    have tick : t.gundam.queue.nextTick = m.due k := playing.nextTick before
    have next' : t.gundam.queue.next = some p := next
    simp only [Tracked.delivers, next', tick, state]
    by_cases due : m.due k < now
    · have moves : m.reached k now = k + 1 := if_pos ⟨before, due⟩
      rw [moves, left_succ here]
      cases t.camera with
      | true => simp only [due, and_self, if_true]
      | false => simp only [Bool.false_eq_true, false_and, if_false, Int.add_zero]
    · have stays : m.reached k now = k := if_neg fun both => due both.2
      rw [stays, if_neg fun both => due both.2, Int.zero_add]
  · have idle : t.gundam.queue.next = none := playing.next.trans (if_neg before)
    have stays : m.reached k now = k := if_neg fun both => before both.1
    simp only [Tracked.delivers, idle, stays, Int.zero_add]

theorem sound_boot : boot.Sound := by
  refine ⟨⟨[], 0, RawInputState.released⟩, [], 0, [], ?_, ?_⟩
  · constructor
    · exact Owned.sound_boot
    · exact Nat.le_refl _
    · intro before
      cases before
    · intro before
      cases before
    · rfl
    · intro before
      cases before
    · rfl
  · intro _
    rfl

/-! Every event keeps the queue sound, and exactly those that keep to the rules keep the
account balanced. -/

structure Accounts (t t' : Tracked) (keeps : Prop) : Prop where
  sound : t'.Sound
  balanced : t.Balanced → (t'.Balanced ↔ keeps)

theorem accounts_resetCam (plays : t.Plays m chain k consumed) (x : UInt8) :
    Accounts t (t.step ticksPerSec (.resetCam x)) (t.Keeps (.resetCam x)) := by
  constructor
  · exact ⟨m, chain, k, consumed, plays.playing, plays.given⟩
  · intro _
    change (x.toNat : Int) = x.toNat + 0 + t.pending ↔ t.pending = 0
    omega

theorem accounts_poll (plays : t.Plays m chain k consumed) (now : Nat) :
    Accounts t (t.step ticksPerSec (.poll now)) (t.Keeps (.poll now)) := by
  have moved := (plays.playing.read now).2
  have plays' : (t.step ticksPerSec (.poll now)).Plays m chain (m.reached k now)
      (if (inputQueueGetState t.gundam.queue now).2.next = none then [] else consumed) := by
    refine ⟨moved, ?_⟩
    intro before
    have stays := plays.playing.read_consumed now before
    exact stays.trans (plays.given (Nat.lt_of_le_of_lt (m.le_reached k now) before))
  constructor
  · exact ⟨m, chain, _, _, plays'⟩
  · intro balanced
    apply iff_of_true _ trivial
    have account := plays.delivers now
    rw [Balanced, plays.pending] at balanced
    rw [Balanced, plays'.pending]
    change (t.gundam.currentCam.toNat : Int) = t.base + (t.delivered + t.delivers now) +
      (if t.camera then left m (m.reached k now) else 0)
    omega

/-- A call from elsewhere does the same whatever chain the queue has been given. -/
theorem step_elsewhere {call : QueueCall} (elsewhere : call.Elsewhere) (q : Queue)
    (owned : List (List NodeRef)) (consumed : List NodeRef) :
    (⟨q, owned, consumed⟩ : Owned).step call =
      ⟨((⟨q, owned, []⟩ : Owned).step call).queue, ((⟨q, owned, []⟩ : Owned).step call).owned,
        consumed⟩ := by
  cases call with
  | alloc | fill | free => rfl
  | append head =>
      simp only [Owned.step]
      split
      · rfl
      · rfl
  | setActive | getState => exact elsewhere.elim

theorem legal_elsewhere {call : QueueCall} {q : Queue} {owned : List (List NodeRef)}
    {consumed : List NodeRef} (legal : Owned.Legal ⟨q, owned, []⟩ call) :
    Owned.Legal ⟨q, owned, consumed⟩ call := by
  cases call with
  | alloc | append | fill | setActive | getState => exact legal
  | free p =>
      cases p with
      | none => exact legal
      | some p => exact legal

theorem accounts_other (plays : t.Plays m chain k consumed) {call : QueueCall}
    (legal : t.Legal (.other call)) :
    Accounts t (t.step ticksPerSec (.other call)) (t.Keeps (.other call)) := by
  obtain ⟨legal, elsewhere⟩ := legal
  have moved := plays.playing.elsewhere plays.given (legal_elsewhere legal) elsewhere
  rw [step_elsewhere elsewhere] at moved
  have plays' : (t.step ticksPerSec (.other call)).Plays m chain k consumed := ⟨moved, plays.given⟩
  constructor
  · exact ⟨m, chain, k, consumed, plays'⟩
  · intro balanced
    apply iff_of_true _ trivial
    rw [Balanced, plays.pending] at balanced
    rw [Balanced, plays'.pending]
    exact balanced

theorem Plays.gaveBack (plays : t.Plays m chain k consumed) {q : Queue}
    (gaveBack : GaveBack ⟨t.gundam.queue, t.owned, consumed⟩ q) :
    Playing m chain k ⟨q, t.owned, consumed⟩ :=
  plays.playing.unmoved plays.given gaveBack.sound gaveBack.unmoved

theorem accounts_home (plays : t.Plays m chain k consumed) (now : Nat) :
    Accounts t (t.step ticksPerSec (.home now)) (t.Keeps (.home now)) := by
  have cases := cmdInputHome_cases ticksPerSec plays.playing.sound now
  simp only [step]
  generalize cmdInputHome ticksPerSec t.gundam.queue now = result at cases
  obtain ⟨printed, q⟩ := result
  rcases cases with ⟨text, failed, few, gaveBack⟩ | ⟨done, enough, m', chain', playing⟩
  · dsimp only at failed
    subst failed
    have plays' : Plays { t with gundam := { t.gundam with queue := q } } m chain k consumed :=
      ⟨plays.gaveBack gaveBack, plays.given⟩
    constructor
    · exact ⟨m, chain, k, consumed, plays'⟩
    · intro balanced
      apply iff_of_true _ (Or.inr few)
      rw [Balanced, plays.pending] at balanced
      rw [Balanced]
      exact balanced.trans (congrArg _ plays'.pending.symm)
  · dsimp only at done
    subst done
    constructor
    · exact ⟨m', chain', 0, chain', playing, fun _ => rfl⟩
    · intro balanced
      rw [Balanced] at balanced
      change (t.gundam.currentCam.toNat : Int) = t.base + t.delivered + 0 ↔
        t.pending = 0 ∨ t.gundam.queue.unused < 2
      rw [or_iff_left (Nat.not_lt.mpr enough)]
      omega

theorem keeps_setCam_iff {x : UInt8} {now : Nat} {offset : Int8}
    (is : Int8.ofInt (x.toNat - t.gundam.currentCam.toNat) = offset)
    (idle : t.gundam.queue.next = none) :
    t.Keeps (.setCam x now) ↔ offset = 0 ∨
      offset.toInt = x.toNat - t.gundam.currentCam.toNat ∧
        2 * offset.toInt.natAbs + 1 ≤ t.gundam.queue.unused := by
  subst is
  have inactive : ¬ t.gundam.queue.next ≠ none := fun active => active idle
  rw [Keeps, or_iff_right inactive, offset_zero_iff, ← offset_whole_iff]
  apply or_congr Iff.rfl
  apply and_congr_right
  intro whole
  rw [whole]

theorem setCam_cases (ticksPerSec : Nat) (plays : t.Plays m chain k consumed) (x : UInt8)
    (now : Nat) :
    Adjusted ticksPerSec t.gundam ⟨t.gundam.queue, t.owned, consumed⟩
      (Int8.ofInt (x.toNat - t.gundam.currentCam.toNat))
      (t.gundam.setCam ticksPerSec x true now) :=
  adjustCam_cases ticksPerSec plays.playing.sound rfl _ now

theorem accounts_setCam (plays : t.Plays m chain k consumed) (x : UInt8) (now : Nat) :
    Accounts t (t.step ticksPerSec (.setCam x now)) (t.Keeps (.setCam x now)) := by
  have cases := setCam_cases ticksPerSec plays x now
  simp only [step]
  generalize t.gundam.setCam ticksPerSec x true now = result at cases
  cases cases with
  | @active text active =>
      have same : inputQueueIsActive t.gundam.queue = true := Option.isSome_iff_ne_none.mpr active
      simp only [same, if_true]
      exact ⟨⟨m, chain, k, consumed, plays⟩, fun balanced => iff_of_true balanced (Or.inl active)⟩
  | still idle zero put =>
      rw [offset_put] at put
      have there := (offset_zero_iff _ _).mp zero
      constructor
      · exact ⟨m, chain, k, consumed, plays.playing, plays.given⟩
      · intro balanced
        apply iff_of_true _ ((keeps_setCam_iff rfl idle).mpr (Or.inl zero))
        subst put there
        refine (balanced_idle ?_).mpr ((balanced_idle idle).mp balanced)
        exact idle
  | failed idle other put few gaveBack =>
      rw [offset_put] at put
      constructor
      · exact ⟨m, chain, k, consumed, plays.gaveBack gaveBack, plays.given⟩
      · intro balanced
        apply iff_of_false
        · intro balanced'
          have still := (balanced_idle (gaveBack.unmoved.next.trans idle)).mp balanced'
          have same := still.trans ((balanced_idle idle).mp balanced).symm
          subst put
          exact other ((offset_zero_iff _ _).mpr (UInt8.toNat_inj.mp (Int.ofNat_inj.mp same)))
        · intro keeps
          rcases (keeps_setCam_iff rfl idle).mp keeps with zero | ⟨-, enough⟩
          · exact other zero
          · exact Nat.not_le.mpr few enough
  | @moved currentCam q tick chain' idle other put enough playing =>
      rw [offset_put] at put
      have inactive : inputQueueIsActive t.gundam.queue = false := by
        rw [inputQueueIsActive, idle, Option.isSome_none]
      simp only [inactive, Bool.false_eq_true, if_false]
      have plays' : Plays { t with gundam := ⟨currentCam, q⟩, camera := true } _ chain' 0 chain' :=
        ⟨playing, fun _ => rfl⟩
      constructor
      · exact ⟨_, chain', 0, chain', plays'⟩
      · intro balanced
        have balanced := (balanced_idle idle).mp balanced
        have pending := plays'.pending
        rw [if_pos rfl, left_moved] at pending
        rw [keeps_setCam_iff rfl idle, or_iff_right other, and_iff_left enough, Balanced, pending]
        subst put
        change (currentCam.toNat : Int) = t.base + t.delivered + _ ↔ _
        omega

theorem accounts_step (ticksPerSec : Nat) (sound : t.Sound) {e : CameraEvent} (legal : t.Legal e) :
    Accounts t (t.step ticksPerSec e) (t.Keeps e) := by
  obtain ⟨m, chain, k, consumed, plays⟩ := sound
  cases e with
  | resetCam x => exact accounts_resetCam plays x
  | setCam x now => exact accounts_setCam plays x now
  | home now => exact accounts_home plays now
  | poll now => exact accounts_poll plays now
  | other call => exact accounts_other plays legal

theorem returns_step (sound : t.Sound) (e : CameraEvent) : t.Returns ticksPerSec e := by
  obtain ⟨m, chain, k, consumed, plays⟩ := sound
  have cases (x : UInt8) (now : Nat) := setCam_cases ticksPerSec plays x now
  constructor
  · intro x now is gives active
    subst is
    have result := cases x now
    simp only [GivesUp, step] at gives ⊢
    generalize t.gundam.setCam ticksPerSec x true now = adjusted at result gives
    cases result with
    | active => rfl
    | failed idle => exact absurd idle active
    | still | moved => exact absurd rfl gives
  · intro x now is gives idle
    subst is
    have result := cases x now
    simp only [GivesUp, step] at gives ⊢
    generalize t.gundam.setCam ticksPerSec x true now = adjusted at result gives
    cases result with
    | active active => exact absurd idle active
    | failed _ _ _ _ gaveBack => exact gaveBack.unmoved.next.trans idle
    | still | moved => exact absurd rfl gives
  · intro x now is gives
    subst is
    have result := cases x now
    simp only [GivesUp, step] at gives ⊢
    generalize t.gundam.setCam ticksPerSec x true now = adjusted at result gives
    cases result with
    | active => exact fun _ => rfl
    | failed _ _ _ _ gaveBack => exact gaveBack.used
    | still | moved => exact absurd rfl gives

theorem tracks_step (sound : t.Sound) {e : CameraEvent} (keeps : t.Keeps e)
    (balanced : (t.step ticksPerSec e).Balanced) : t.Tracks ticksPerSec e := by
  constructor
  · intro idle
    exact (balanced_idle idle).mp balanced
  · intro x now is gives
    subst is
    obtain ⟨m, chain, k, consumed, plays⟩ := sound
    have result := setCam_cases ticksPerSec plays x now
    simp only [GivesUp, step] at gives ⊢
    generalize t.gundam.setCam ticksPerSec x true now = adjusted at result gives
    cases result with
    | active => rfl
    | failed idle other _ few =>
        have enough := ((keeps_setCam_iff rfl idle).mp keeps).resolve_left other
        exact absurd enough.2 (Nat.not_le.mpr few)
    | still | moved => exact absurd rfl gives

/-- Nothing but the rules keeps the account balanced throughout a run. -/
theorem balanced_iff (ticksPerSec : Nat) (es : List CameraEvent)
    (legal : Along (step ticksPerSec) Legal boot es) :
    Along (step ticksPerSec) (fun t e => (t.step ticksPerSec e).Balanced) boot es ↔
      Along (step ticksPerSec) Keeps boot es := by
  have initial : boot.Sound ∧ boot.Balanced := ⟨sound_boot, rfl⟩
  have agree (t : Tracked) (e : CameraEvent) (legal : t.Legal e) (inv : t.Sound ∧ t.Balanced) :
      (t.step ticksPerSec e).Balanced ↔ t.Keeps e :=
    (accounts_step ticksPerSec inv.1 legal).balanced inv.2
  have preserved (t : Tracked) (e : CameraEvent) (legal : t.Legal e)
      (inv : t.Sound ∧ t.Balanced) (balanced : (t.step ticksPerSec e).Balanced) :
      (t.step ticksPerSec e).Sound ∧ (t.step ticksPerSec e).Balanced :=
    ⟨(accounts_step ticksPerSec inv.1 legal).sound, balanced⟩
  exact along_congr_of_legal agree preserved initial legal

/-- In every run whose steps keep to the rules, the camera is tracked whenever no queue is
active. In every run at all, a `set_cam` that gives up returns what it took. -/
theorem camera_tracked (ticksPerSec : Nat) (es : List CameraEvent)
    (legal : Along (step ticksPerSec) Legal boot es) :
    Along (step ticksPerSec) (fun t e => t.Returns ticksPerSec e) boot es ∧
      (Along (step ticksPerSec) Keeps boot es →
        Along (step ticksPerSec) (fun t e => t.Tracks ticksPerSec e) boot es) := by
  have kept (t : Tracked) (e : CameraEvent) (legal : t.Legal e) (sound : t.Sound) :
      (t.step ticksPerSec e).Sound := (accounts_step ticksPerSec sound legal).sound
  constructor
  · have returns (t : Tracked) (e : CameraEvent) (_ : t.Legal e) (sound : t.Sound) :
        t.Returns ticksPerSec e := returns_step sound e
    exact along_of_legal kept returns sound_boot legal
  · intro keeps
    have initial : boot.Sound ∧ boot.Balanced := ⟨sound_boot, rfl⟩
    have balanced (t : Tracked) (e : CameraEvent) (both : t.Legal e ∧ t.Keeps e)
        (inv : t.Sound ∧ t.Balanced) : (t.step ticksPerSec e).Balanced :=
      ((accounts_step ticksPerSec inv.1 both.1).balanced inv.2).mpr both.2
    have preserved (t : Tracked) (e : CameraEvent) (both : t.Legal e ∧ t.Keeps e)
        (inv : t.Sound ∧ t.Balanced) :
        (t.step ticksPerSec e).Sound ∧ (t.step ticksPerSec e).Balanced :=
      ⟨kept t e both.1 inv.1, balanced t e both inv⟩
    have tracks (t : Tracked) (e : CameraEvent) (both : t.Legal e ∧ t.Keeps e)
        (inv : t.Sound ∧ t.Balanced) : t.Tracks ticksPerSec e :=
      tracks_step inv.1 both.2 (balanced t e both inv)
    exact along_of_legal preserved tracks initial (along_and legal keeps)

/-- The camera moves up by one, and home is pressed after the last press has been delivered. -/
def camUp : List CameraEvent :=
  [.setCam 2 1, .poll 2, .home 3, .poll 4, .poll 1097, .resetCam 9, .other .alloc, .setCam 9 1098]

theorem camera_tracked_up : Along (step 32768) (fun t e => t.Tracks 32768 e) boot camUp := by
  have legal : Along (step 32768) Legal boot camUp := by
    refine ⟨trivial, trivial, trivial, trivial, trivial, trivial, ?_, trivial, trivial⟩
    exact ⟨⟨trivial, trivial⟩, trivial⟩
  have keeps : Along (step 32768) Keeps boot camUp := by
    refine ⟨?_, trivial, ?_, trivial, trivial, ?_, trivial, ?_, trivial⟩
    · have enough : 3 ≤ Queue.boot.unused := by
        rw [unused_boot]
        decide
      exact Or.inr (Or.inr ⟨by decide, enough⟩)
    · exact Or.inl (by decide)
    · change Tracked.pending _ = 0
      decide
    · exact Or.inr (Or.inl (by decide))
  exact (camera_tracked 32768 camUp legal).2 keeps

/-- Home replaces the chain of `set_cam` before any of it has been delivered. -/
theorem home_loses_press :
    ¬ ∀ ticksPerSec es, Along (step ticksPerSec) Legal boot es →
      Along (step ticksPerSec) (fun t e => t.Tracks ticksPerSec e) boot es := by
  intro all
  have tracks := all 32768 [.setCam 2 1, .home 1, .poll 2, .poll 1095]
    ⟨trivial, trivial, trivial, trivial, trivial⟩
  have last := tracks.2.2.2.1.camera (by decide)
  exact absurd last (by decide)

end Tracked

end PassingLink.Opt
