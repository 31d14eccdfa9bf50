import PassingLink.Lib.Fairness
import PassingLink.Ps4.Session

/-! How a session goes on: after every move it is as close to its end as before, or closer. -/
namespace PassingLink.Ps4
open Lib Auth

/-! ### How many rounds are left -/

def callTurn : Nat → Turn
  | 0 => .console
  | _ + 1 => .usb

/-- Where a session is with the first challenge, with the rounds it takes at most from there and
the party that is waited for. -/
inductive Ranked (env : Env) (key : PS4Key) (s : Session) : Nat → Turn → Prop
  | done {turn} : s.console.challenges = [] → s.console.stage = .sends 0 → s.asked = false →
      Ranked env key s 0 turn
  | send {c later part reply} : s.console.challenges = c :: later →
      s.console.stage = .sends part → s.asked = false → s.machine.usb = .ret reply → part ≤ 4 →
      Receives c part s.machine.shared →
      Ranked env key s (154 * later.length + 6 * (4 - part) + 130) .console
  | sending {c later part n} : s.console.challenges = c :: later →
      s.console.stage = .sends part → s.asked = true → part ≤ 4 → n ≤ 4 →
      Answers env n (.set true) (Stored env key c (part + 1)) s.machine →
      Ranked env key s (154 * later.length + 6 * (4 - part) + 125 + n) (callTurn n)
  | waiting {c later n reply} : s.console.challenges = c :: later → s.console.stage = .polls →
      s.machine.usb = .ret reply → s.asked = false ∨ reply = stateReply env c 16 →
      Signing env key c (n + 1) (s.machine.shared, s.machine.worker) →
      Ranked env key s (154 * later.length + 119 + n) .worker
  | asking {c later n} : s.console.challenges = c :: later → s.console.stage = .polls →
      s.asked = true → s.machine.usb = signingStateRequest.program env →
      Signing env key c (n + 1) (s.machine.shared, s.machine.worker) →
      Ranked env key s (154 * later.length + 119 + n) .worker
  | poll {c later reply} : s.console.challenges = c :: later → s.console.stage = .polls →
      s.asked = false → s.machine.usb = .ret reply → Sends env key c 0 s.machine.shared →
      Ranked env key s (154 * later.length + 117) .console
  | polling {c later} : s.console.challenges = c :: later → s.console.stage = .polls →
      s.asked = true → s.machine.usb = signingStateRequest.program env →
      Sends env key c 0 s.machine.shared → Ranked env key s (154 * later.length + 116) .usb
  | early {c later} : s.console.challenges = c :: later → s.console.stage = .polls →
      s.asked = true → s.machine.usb = .ret (stateReply env c 16) →
      Sends env key c 0 s.machine.shared → Ranked env key s (154 * later.length + 118) .console
  | ready {c later} : s.console.challenges = c :: later → s.console.stage = .polls →
      s.asked = true → s.machine.usb = .ret (stateReply env c 0) →
      Sends env key c 0 s.machine.shared → Ranked env key s (154 * later.length + 115) .console
  | read {c later part reply} : s.console.challenges = c :: later →
      s.console.stage = .reads (partsRead (c.answer env key) part) → s.asked = false →
      s.machine.usb = .ret reply → part < 19 → Sends env key c part s.machine.shared →
      Ranked env key s (154 * later.length + 6 * (18 - part) + 6) .console
  | reading {c later part n} : s.console.challenges = c :: later →
      s.console.stage = .reads (partsRead (c.answer env key) part) → s.asked = true → part < 19 →
      n ≤ 4 → Answers env n (chunkAnswer env key c part) (Delivered env key c (part + 1)) s.machine →
      Ranked env key s (154 * later.length + 6 * (18 - part) + 1 + n) (callTurn n)

structure Kept (env : Env) (key : PS4Key) (challenges : List Challenge) (n : Nat) (turn : Turn)
    (s : Session) : Prop where
  ranked : Ranked env key s n turn
  inv : Inv env s.machine
  answered : ∃ before, challenges = before ++ s.console.challenges ∧
    s.console.answers = before.map (Challenge.answer env key)

variable {env : Env} {key : PS4Key} {c : Challenge}

/-! ### Every move brings the session closer to its end, or waits for another party -/

section Moves
variable {s s' : Session} {n n' : Nat} {turn turn' mover : Turn}

def Closer (env : Env) (key : PS4Key) (n : Nat) (turn mover : Turn) (s' : Session) : Prop :=
  ∃ n' turn', Ranked env key s' n' turn' ∧
    (n' < n ∨ n' = n ∧ (n = 0 ∨ turn' = turn ∧ mover ≠ turn))

theorem Closer.less (ranked : Ranked env key s' n' turn') (less : n' < n) :
    Closer env key n turn mover s' := ⟨n', turn', ranked, .inl less⟩

theorem Closer.same (ranked : Ranked env key s' n turn) (other : mover ≠ turn) :
    Closer env key n turn mover s' := ⟨n, turn, ranked, .inr ⟨rfl, .inr ⟨rfl, other⟩⟩⟩

theorem Closer.done (ranked : Ranked env key s' 0 turn) : Closer env key 0 turn mover s' :=
  ⟨0, turn, ranked, .inr ⟨rfl, .inl rfl⟩⟩

theorem step_usb_idle {idle : Reply} (usb : s.machine.usb = .ret idle) : s.step env .usb = s := by
  simp only [Session.step, usb_idle usb]

/-- The callback does nothing while no request is being answered. -/
theorem usb_rests {idle : Reply} (usb : s.machine.usb = .ret idle)
    (ranked : Ranked env key s n turn) (other : Turn.usb ≠ turn) :
    Closer env key n turn .usb (s.step env .usb) := by
  rw [step_usb_idle usb]
  exact .same ranked other

theorem ranked_usb (able : env.ps4Auth = true) (ranked : Ranked env key s n turn) :
    Closer env key n turn .usb (s.step env .usb) := by
  cases ranked with
  | done challenges stage asked => exact .done (.done challenges stage asked)
  | send challenges stage asked usb small receives =>
      exact usb_rests usb (.send challenges stage asked usb small receives) (by decide)
  | @sending c later part j challenges stage asked small few answers =>
      cases j with
      | zero =>
          have sending := Ranked.sending challenges stage asked small few answers
          exact usb_rests answers.done.1 sending (by decide)
      | succ j =>
          refine .less (.sending challenges stage asked small ?_ answers.usb) (Nat.lt_succ_self _)
          exact Nat.le_of_succ_le few
  | waiting challenges stage usb heard signing =>
      exact usb_rests usb (.waiting challenges stage usb heard signing) (by decide)
  | asking challenges stage asked usb signing =>
      have moved := polled able usb signing.waits.id
      rw [if_neg signing.waits.type] at moved
      simp only [Session.step, moved]
      exact .same (.waiting challenges stage rfl (.inr rfl) signing) (by decide)
  | poll challenges stage asked usb sends =>
      exact usb_rests usb (.poll challenges stage asked usb sends) (by decide)
  | polling challenges stage asked usb sends =>
      have moved := polled able usb sends.id
      rw [if_pos sends.type] at moved
      simp only [Session.step, moved]
      exact .less (.ready challenges stage asked rfl sends) (Nat.lt_succ_self _)
  | early challenges stage asked usb sends =>
      exact usb_rests usb (.early challenges stage asked usb sends) (by decide)
  | ready challenges stage asked usb sends =>
      exact usb_rests usb (.ready challenges stage asked usb sends) (by decide)
  | read challenges stage asked usb bound sends =>
      exact usb_rests usb (.read challenges stage asked usb bound sends) (by decide)
  | @reading c later part j challenges stage asked bound few answers =>
      cases j with
      | zero =>
          have reading := Ranked.reading challenges stage asked bound few answers
          exact usb_rests answers.done.1 reading (by decide)
      | succ j =>
          refine .less (.reading challenges stage asked bound ?_ answers.usb) (Nat.lt_succ_self _)
          exact Nat.le_of_succ_le few

theorem worked (m : Machine) : m.step env (.worker .success) =
    Machine.ofCall m.request (m.usb, workStep env (m.shared, m.worker) .success) :=
  step_move m.request (m.usb, m.shared, m.worker) (some .success)

theorem step_worker_asleep (inv : Inv env s.machine)
    (type : s.machine.shared.authState.type = .receivingNonce ∨
      s.machine.shared.authState.type = .sendingSignature) : s.step env .worker = s := by
  simp only [Session.step, (worker_asleep inv type .success).1]

theorem worker_ne_callTurn (n : Nat) : Turn.worker ≠ callTurn n := by
  intro same
  cases n <;> cases same

/-- The work item does nothing while there is nothing to sign. -/
theorem worker_rests (inv : Inv env s.machine)
    (type : s.machine.shared.authState.type = .receivingNonce ∨
      s.machine.shared.authState.type = .sendingSignature)
    (ranked : Ranked env key s n turn) (other : Turn.worker ≠ turn) :
    Closer env key n turn .worker (s.step env .worker) := by
  rw [step_worker_asleep inv type]
  exact .same ranked other

section Stages
variable {later : List Challenge} {part k : Nat} {reply : Reply}

/-- The work item may begin to sign before the console hears that the last part has been taken. -/
theorem worker_sent (inv : Inv env s.machine) (challenges : s.console.challenges = c :: later)
    (stage : s.console.stage = .sends part) (asked : s.asked = true) (small : part ≤ 4)
    (answers : Answers env 0 (.set true) (Stored env key c (part + 1)) s.machine) :
    Closer env key (154 * later.length + 6 * (4 - part) + 125) .console .worker
      (s.step env .worker) := by
  obtain ⟨usb, stored⟩ := answers.done
  have sent := Ranked.sending challenges stage asked small (Nat.zero_le 4) answers
  unfold Stored at stored
  split at stored
  · rename_i last
    obtain ⟨k, le, signing⟩ := stored
    obtain ⟨k', signing', less⟩ := signing.work
    refine .same (.sending (n := 0) challenges stage asked small (Nat.zero_le 4) ?_) (by decide)
    simp only [Session.step]
    rw [worked]
    refine Prog.underway_zero.mpr ⟨_, usb, rfl, ?_⟩
    rw [Stored, if_pos last]
    exact ⟨k', by omega, signing'⟩
  · exact worker_rests inv (.inl stored.type) sent (by decide)

theorem worker_waiting (challenges : s.console.challenges = c :: later)
    (stage : s.console.stage = .polls) (usb : s.machine.usb = .ret reply)
    (heard : s.asked = false ∨ reply = stateReply env c 16)
    (signing : Signing env key c (k + 1) (s.machine.shared, s.machine.worker)) :
    Closer env key (154 * later.length + 119 + k) .worker .worker (s.step env .worker) := by
  obtain ⟨k', signing', less⟩ := signing.work
  simp only [Session.step, worked]
  cases k' with
  | zero =>
      cases asked : s.asked with
      | false =>
          refine .less (.poll challenges stage ?_ usb signing'.sends) (by omega)
          rfl
      | true =>
          have reply : reply = stateReply env c 16 := heard.resolve_left (by rw [asked]; decide)
          refine .less (.early challenges stage ?_ (reply ▸ usb) signing'.sends) (by omega)
          rfl
  | succ k' =>
      exact .less (.waiting challenges stage usb heard signing') (by omega)

theorem worker_asking (challenges : s.console.challenges = c :: later)
    (stage : s.console.stage = .polls) (asked : s.asked = true)
    (usb : s.machine.usb = signingStateRequest.program env)
    (signing : Signing env key c (k + 1) (s.machine.shared, s.machine.worker)) :
    Closer env key (154 * later.length + 119 + k) .worker .worker (s.step env .worker) := by
  obtain ⟨k', signing', less⟩ := signing.work
  simp only [Session.step, worked]
  cases k' with
  | zero =>
      exact .less (.polling challenges stage asked usb signing'.sends) (by omega)
  | succ k' =>
      exact .less (.asking challenges stage asked usb signing') (by omega)

/-- Once a part of the answer has been delivered the work item is asleep, whichever it was. -/
theorem worker_delivered (inv : Inv env s.machine)
    (delivered : Delivered env key c part (s.machine.shared, s.machine.worker)) :
    s.step env .worker = s := by
  unfold Delivered at delivered
  split at delivered
  · exact step_worker_asleep inv (.inl delivered)
  · exact step_worker_asleep inv (.inr delivered.type)

end Stages

theorem ranked_worker (inv : Inv env s.machine) (ranked : Ranked env key s n turn) :
    Closer env key n turn .worker (s.step env .worker) := by
  cases ranked with
  | done challenges stage asked => exact .done (.done challenges stage asked)
  | send challenges stage asked usb small receives =>
      exact worker_rests inv (.inl receives.type)
        (.send challenges stage asked usb small receives) (by decide)
  | @sending c later part j challenges stage asked small few answers =>
      cases j with
      | zero => exact worker_sent inv challenges stage asked small answers
      | succ j =>
          have same : s.step env .worker = s := by
            simp only [Session.step, answers.worker]
          rw [same]
          exact .same (.sending challenges stage asked small few answers) (worker_ne_callTurn _)
  | waiting challenges stage usb heard signing =>
      exact worker_waiting challenges stage usb heard signing
  | asking challenges stage asked usb signing =>
      exact worker_asking challenges stage asked usb signing
  | poll challenges stage asked usb sends =>
      exact worker_rests inv (.inr sends.type) (.poll challenges stage asked usb sends) (by decide)
  | polling challenges stage asked usb sends =>
      exact worker_rests inv (.inr sends.type) (.polling challenges stage asked usb sends)
        (by decide)
  | early challenges stage asked usb sends =>
      exact worker_rests inv (.inr sends.type) (.early challenges stage asked usb sends) (by decide)
  | ready challenges stage asked usb sends =>
      exact worker_rests inv (.inr sends.type) (.ready challenges stage asked usb sends) (by decide)
  | read challenges stage asked usb bound sends =>
      exact worker_rests inv (.inr sends.type) (.read challenges stage asked usb bound sends)
        (by decide)
  | @reading c later part j challenges stage asked bound few answers =>
      have same : s.step env .worker = s := by
        cases j with
        | zero => exact worker_delivered inv answers.done.2
        | succ j => simp only [Session.step, answers.worker]
      rw [same]
      exact .same (.reading challenges stage asked bound few answers) (worker_ne_callTurn _)

theorem signingState_busy (able : env.ps4Auth = true) :
    ∃ o next, signingStateRequest.program env = .op o next := by
  refine ⟨.load, ?_⟩
  simp only [signingStateRequest, Request.program, getFeatureReport, able]
  exact ⟨_, rfl⟩

theorem step_console_busy {o : Op} {next : o.Res → Auth Reply} (usb : s.machine.usb = .op o next) :
    s.step env .console = s := by
  simp only [Session.step, usb]

theorem step_console_hears {reply : Reply} (usb : s.machine.usb = .ret reply)
    (asked : s.asked = true) : s.step env .console =
      { s with console := s.console.hear env reply, asked := false } := by
  simp only [Session.step, usb, asked, if_true]

theorem step_console_asks {idle : Reply} (usb : s.machine.usb = .ret idle)
    (asked : s.asked = false) {request : Request} (next : s.console.request env = some request) :
    s.step env .console =
      { s with asked := true, machine := s.machine.step env (.request request) } := by
  simp only [Session.step, usb, asked, Bool.false_eq_true, if_false, next]

/-- The challenges that the console has taken off its list are those it has got answers for. -/
def Answered (env : Env) (key : PS4Key) (console console' : Console) : Prop :=
  ∃ done, console.challenges = done ++ console'.challenges ∧
    console'.answers = console.answers ++ done.map (Challenge.answer env key)

theorem Answered.same {console console' : Console}
    (challenges : console'.challenges = console.challenges)
    (answers : console'.answers = console.answers) : Answered env key console console' :=
  ⟨[], challenges.symm, by rw [answers, List.map_nil, List.append_nil]⟩

/-- After the console's move the session is closer to its end, or waits for another party. -/
def ConsoleMoves (env : Env) (key : PS4Key) (s : Session) (n : Nat) (turn : Turn) : Prop :=
  Closer env key n turn .console (s.step env .console) ∧
    Answered env key s.console (s.step env .console).console

theorem console_done (challenges : s.console.challenges = []) (stage : s.console.stage = .sends 0)
    (asked : s.asked = false) : ConsoleMoves env key s 0 turn := by
  have same : s.step env .console = s := by
    have silent : s.console.request env = none := by
      simp only [Console.request, challenges]
    simp only [Session.step, asked, silent, Bool.false_eq_true, if_false]
    split <;> rfl
  unfold ConsoleMoves
  rw [same]
  exact ⟨.done (.done challenges stage asked), .same rfl rfl⟩

/-- The console does nothing as long as its request is being answered. -/
theorem console_busy {o : Op} {next : o.Res → Auth Reply} (usb : s.machine.usb = .op o next)
    (ranked : Ranked env key s n turn) (other : Turn.console ≠ turn) :
    ConsoleMoves env key s n turn := by
  unfold ConsoleMoves
  rw [step_console_busy usb]
  exact ⟨.same ranked other, .same rfl rfl⟩

section Stages
variable {later : List Challenge} {part k : Nat} {reply : Reply}

theorem console_send (able : env.ps4Auth = true) (keyed : env.ps4Key = some key)
    (inv : Inv env s.machine) (challenges : s.console.challenges = c :: later)
    (stage : s.console.stage = .sends part) (asked : s.asked = false)
    (usb : s.machine.usb = .ret reply) (small : part ≤ 4)
    (receives : Receives c part s.machine.shared) :
    ConsoleMoves env key s (154 * later.length + 6 * (4 - part) + 130) .console := by
  have next : s.console.request env = some (nonceReport (c.packet env part)) := by
    simp only [Console.request, challenges, stage]
  unfold ConsoleMoves
  rw [step_console_asks usb asked next]
  obtain ⟨s', finish, stored⟩ := stored_part able keyed inv.nonce_size small receives
  have within : Prog.Within 4 ((nonceReport (c.packet env part)).program env) :=
    setReport_within (some .feature) 0xF0
  obtain ⟨k, few, answers⟩ := answers_request inv ⟨reply, usb⟩ (.inl receives.type) within
    finish stored
  exact ⟨.less (.sending challenges stage rfl small few answers) (by omega), .same rfl rfl⟩

/-- After the last part the answer is asked for: the device may have signed by then. -/
theorem console_sent (challenges : s.console.challenges = c :: later)
    (stage : s.console.stage = .sends part) (asked : s.asked = true) (small : part ≤ 4)
    (answers : Answers env 0 (.set true) (Stored env key c (part + 1)) s.machine) :
    ConsoleMoves env key s (154 * later.length + 6 * (4 - part) + 125) .console := by
  obtain ⟨usb, stored⟩ := answers.done
  unfold ConsoleMoves
  rw [step_console_hears usb asked, hear_sent challenges stage]
  refine ⟨?_, .same rfl rfl⟩
  unfold Stored at stored
  by_cases last : part = 4
  · rw [if_pos (by omega)] at stored
    rw [if_pos last]
    obtain ⟨k, le, signing⟩ := stored
    cases k with
    | zero => exact .less (.poll challenges rfl rfl usb signing.sends) (by omega)
    | succ k => exact .less (.waiting challenges rfl usb (.inl rfl) signing) (by omega)
  · rw [if_neg (by omega)] at stored
    rw [if_neg last]
    exact .less (.send challenges rfl rfl usb (by omega) stored) (by omega)

theorem console_waiting (challenges : s.console.challenges = c :: later)
    (stage : s.console.stage = .polls) (usb : s.machine.usb = .ret reply)
    (heard : s.asked = false ∨ reply = stateReply env c 16)
    (signing : Signing env key c (k + 1) (s.machine.shared, s.machine.worker)) :
    ConsoleMoves env key s (154 * later.length + 119 + k) .worker := by
  unfold ConsoleMoves
  cases asked : s.asked with
  | false =>
      have next : s.console.request env = some signingStateRequest := by
        simp only [Console.request, challenges, stage]
      rw [step_console_asks usb asked next]
      refine ⟨.same (.asking challenges stage rfl ?_ ?_) (by decide), .same rfl rfl⟩
      · simp only [Machine.step, usb]
      · simp only [Machine.step, usb]
        exact signing
  | true =>
      have reply : reply = stateReply env c 16 := heard.resolve_left (by rw [asked]; decide)
      rw [step_console_hears usb asked, reply, hear_early challenges stage]
      exact ⟨.same (.waiting challenges stage usb (.inl rfl) signing) (by decide), .same rfl rfl⟩

theorem console_poll (challenges : s.console.challenges = c :: later)
    (stage : s.console.stage = .polls) (asked : s.asked = false)
    (usb : s.machine.usb = .ret reply) (sends : Sends env key c 0 s.machine.shared) :
    ConsoleMoves env key s (154 * later.length + 117) .console := by
  have next : s.console.request env = some signingStateRequest := by
    simp only [Console.request, challenges, stage]
  unfold ConsoleMoves
  rw [step_console_asks usb asked next]
  refine ⟨.less (.polling challenges stage rfl ?_ ?_) (Nat.lt_succ_self _), .same rfl rfl⟩
  · simp only [Machine.step, usb]
  · simp only [Machine.step, usb]
    exact sends

theorem console_early (challenges : s.console.challenges = c :: later)
    (stage : s.console.stage = .polls) (asked : s.asked = true)
    (usb : s.machine.usb = .ret (stateReply env c 16))
    (sends : Sends env key c 0 s.machine.shared) :
    ConsoleMoves env key s (154 * later.length + 118) .console := by
  unfold ConsoleMoves
  rw [step_console_hears usb asked, hear_early challenges stage]
  exact ⟨.less (.poll challenges stage rfl usb sends) (Nat.lt_succ_self _), .same rfl rfl⟩

theorem console_ready (challenges : s.console.challenges = c :: later)
    (stage : s.console.stage = .polls) (asked : s.asked = true)
    (usb : s.machine.usb = .ret (stateReply env c 0))
    (sends : Sends env key c 0 s.machine.shared) :
    ConsoleMoves env key s (154 * later.length + 115) .console := by
  unfold ConsoleMoves
  rw [step_console_hears usb asked, hear_ready challenges stage]
  refine ⟨.less (.read challenges ?_ rfl usb (by decide) sends) (Nat.lt_succ_self _),
    .same rfl rfl⟩
  rfl

theorem console_read (able : env.ps4Auth = true) (keyed : env.ps4Key = some key)
    (inv : Inv env s.machine) (challenges : s.console.challenges = c :: later)
    (stage : s.console.stage = .reads (partsRead (c.answer env key) part))
    (asked : s.asked = false) (usb : s.machine.usb = .ret reply) (bound : part < 19)
    (sends : Sends env key c part s.machine.shared) :
    ConsoleMoves env key s (154 * later.length + 6 * (18 - part) + 6) .console := by
  have next : s.console.request env = some signatureRequest := by
    simp only [Console.request, challenges, stage]
  unfold ConsoleMoves
  rw [step_console_asks usb asked next]
  obtain ⟨s', finish, delivered⟩ := delivered_part able keyed sends bound
  obtain ⟨k, few, answers⟩ := answers_request inv ⟨reply, usb⟩ (.inr sends.type)
    (signatureRequest_within env) finish delivered
  exact ⟨.less (.reading challenges stage rfl bound few answers) (by omega), .same rfl rfl⟩

/-- With the last part the challenge is answered, and the next one is begun. -/
theorem console_has_read (challenges : s.console.challenges = c :: later)
    (stage : s.console.stage = .reads (partsRead (c.answer env key) part))
    (asked : s.asked = true) (bound : part < 19)
    (answers : Answers env 0 (chunkAnswer env key c part) (Delivered env key c (part + 1))
      s.machine) :
    ConsoleMoves env key s (154 * later.length + 6 * (18 - part) + 1) .console := by
  obtain ⟨usb, delivered⟩ := answers.done
  unfold ConsoleMoves
  rw [step_console_hears usb asked, hear_part challenges stage bound]
  unfold Delivered at delivered
  by_cases last : part = 18
  · rw [if_pos (by omega)] at delivered
    rw [if_pos last]
    refine ⟨?_, [c], challenges, rfl⟩
    cases later with
    | nil => exact ⟨0, .console, .done rfl rfl rfl, .inl (by omega)⟩
    | cons c' later =>
        refine .less (.send rfl rfl rfl usb (Nat.zero_le 4) (Receives.reset delivered)) ?_
        rw [List.length_cons]
        omega
  · rw [if_neg (by omega)] at delivered
    rw [if_neg last]
    exact ⟨.less (.read challenges rfl rfl usb (by omega) delivered) (by omega), .same rfl rfl⟩

end Stages

theorem ranked_console (able : env.ps4Auth = true) (keyed : env.ps4Key = some key)
    (inv : Inv env s.machine) (ranked : Ranked env key s n turn) :
    ConsoleMoves env key s n turn := by
  cases ranked with
  | done challenges stage asked => exact console_done challenges stage asked
  | send challenges stage asked usb small receives =>
      exact console_send able keyed inv challenges stage asked usb small receives
  | @sending c later part j challenges stage asked small few answers =>
      cases j with
      | zero => exact console_sent challenges stage asked small answers
      | succ j =>
          obtain ⟨o, next, usb⟩ := answers.busy
          exact console_busy usb (.sending challenges stage asked small few answers) (by
            intro same
            cases same)
  | waiting challenges stage usb heard signing =>
      exact console_waiting challenges stage usb heard signing
  | asking challenges stage asked usb signing =>
      obtain ⟨o, next, program⟩ := @signingState_busy env able
      exact console_busy (usb.trans program) (.asking challenges stage asked usb signing)
        (by decide)
  | poll challenges stage asked usb sends => exact console_poll challenges stage asked usb sends
  | polling challenges stage asked usb sends =>
      obtain ⟨o, next, program⟩ := @signingState_busy env able
      exact console_busy (usb.trans program) (.polling challenges stage asked usb sends)
        (by decide)
  | early challenges stage asked usb sends => exact console_early challenges stage asked usb sends
  | ready challenges stage asked usb sends => exact console_ready challenges stage asked usb sends
  | read challenges stage asked usb bound sends =>
      exact console_read able keyed inv challenges stage asked usb bound sends
  | @reading c later part j challenges stage asked bound few answers =>
      cases j with
      | zero => exact console_has_read challenges stage asked bound answers
      | succ j =>
          obtain ⟨o, next, usb⟩ := answers.busy
          exact console_busy usb (.reading challenges stage asked bound few answers) (by
            intro same
            cases same)

theorem Session.step_inv (inv : Inv env s.machine) (turn : Turn) :
    Inv env (s.step env turn).machine := by
  cases turn with
  | console =>
      simp only [Session.step]
      split
      · exact inv
      split
      · exact inv
      split
      · exact inv
      · rename_i request _
        exact (step_effect inv (.request request)).inv
  | usb => exact (step_effect inv .usb).inv
  | worker => exact (step_effect inv (.worker .success)).inv

theorem Ranked.nothing_left (ranked : Ranked env key s n turn) (spent : n = 0) :
    s.console.challenges = [] := by
  cases ranked with
  | done challenges => exact challenges
  | send | sending | waiting | asking | poll | polling | early | ready | read | reading => omega

theorem Ranked.accepted (ranked : Ranked env key s n turn) : s.console.stage ≠ .refused := by
  intro refused
  cases ranked with
  | done _ stage | send _ stage | sending _ stage | waiting _ stage | asking _ stage
  | poll _ stage | polling _ stage | early _ stage | ready _ stage | read _ stage
  | reading _ stage => cases refused.symm.trans stage

theorem ranked_step (able : env.ps4Auth = true) (keyed : env.ps4Key = some key)
    (inv : Inv env s.machine) (ranked : Ranked env key s n turn) (mover : Turn) :
    Closer env key n turn mover (s.step env mover) ∧
      Answered env key s.console (s.step env mover).console := by
  cases mover with
  | console => exact ranked_console able keyed inv ranked
  | usb => exact ⟨ranked_usb able ranked, .same rfl rfl⟩
  | worker => exact ⟨ranked_worker inv ranked, .same rfl rfl⟩

end Moves

theorem kept_advances (able : env.ps4Auth = true) (keyed : env.ps4Key = some key)
    (challenges : List Challenge) : Advances (Session.step env) id (Kept env key challenges) := by
  intro n turn s mover kept
  obtain ⟨⟨n', turn', ranked, closer⟩, more, taken, answers⟩ :=
    ranked_step able keyed kept.inv kept.ranked mover
  obtain ⟨before, split, given⟩ := kept.answered
  refine ⟨n', turn', ⟨ranked, s.step_inv kept.inv mover, before ++ more, ?_, ?_⟩, closer⟩
  · rw [split, taken, List.append_assoc]
  · rw [answers, given, List.map_append]

theorem kept_start {m : Machine} (inv : Inv env m)
    (receiving : m.shared.authState.type = .receivingNonce) {idle : Reply} (usb : m.usb = .ret idle)
    (challenges : List Challenge) :
    ∃ turn, Kept env key challenges (154 * challenges.length) turn (.start m challenges) := by
  refine ⟨.console, ?_, inv, [], rfl, rfl⟩
  cases challenges with
  | nil => exact .done rfl rfl rfl
  | cons c later =>
      exact .send rfl rfl rfl usb (Nat.zero_le 4) (Receives.reset receiving)

/-- From wherever the device receives nonces, a console gets no refusal and no wrong answer,
however the three parties are scheduled; and if each of them moves again and again it gets an
answer for every one of its challenges. -/
theorem authenticates (able : env.ps4Auth = true) (keyed : env.ps4Key = some key)
    (es : List Event) {idle : Reply} (challenges : List Challenge) (turns : List Turn)
    (rounds : List (List Turn)) :
    let m := run (Machine.step env) Machine.boot es
    let s := run (Session.step env) (.start m challenges) turns
    m.shared.authState.type = .receivingNonce → m.usb = .ret idle →
      s.console.stage ≠ .refused ∧
      (∃ done, challenges = done ++ s.console.challenges ∧
        s.console.answers = done.map (Challenge.answer env key)) ∧
      ((∀ round ∈ rounds, Round id round) → 154 * challenges.length ≤ rounds.length →
        (run (Session.step env) s rounds.flatten).console.answers =
          challenges.map (Challenge.answer env key)) := by
  intro m s receiving usb
  have advances := kept_advances able keyed challenges
  obtain ⟨turn, start⟩ := @kept_start env key _ (run_inv (boot_inv env) es) receiving _ usb challenges
  obtain ⟨n, turn', kept, less⟩ := advances.run start turns
  refine ⟨kept.ranked.accepted, kept.answered, ?_⟩
  intro fair enough
  obtain ⟨last, spent⟩ := advances.rounds kept fair (Nat.le_trans less enough)
  obtain ⟨before, split, answers⟩ := spent.answered
  rw [answers, split, spent.ranked.nothing_left rfl, List.append_nil]

def exampleChallenge : Challenge where
  nonceId := 7
  nonce := List.replicate 256 0x5a
  padding := List.replicate 24 0
  nonce_size := List.length_replicate
  padding_size := List.length_replicate

def inTurn (n : Nat) : List (List Turn) := List.replicate n [.console, .usb, .worker]

theorem inTurn_fair (n : Nat) : ∀ round ∈ inTurn n, Round id round := by
  intro round member turn
  rw [List.eq_of_mem_replicate member]
  cases turn <;> exact ⟨_, by decide, rfl⟩

/-- Two challenges with the parties taking turns. -/
theorem exampleChallenge_answered :
    (run (Session.step exampleEnv) (.start Machine.boot [exampleChallenge, exampleChallenge])
        (inTurn 308).flatten).console.answers =
      [exampleChallenge, exampleChallenge].map (Challenge.answer exampleEnv exampleKey) := by
  have enough : 154 * [exampleChallenge, exampleChallenge].length ≤ (inTurn 308).length := by
    rw [inTurn, List.length_replicate]
    decide
  obtain ⟨-, -, answered⟩ := @authenticates exampleEnv exampleKey rfl rfl []
    (.set false) [exampleChallenge, exampleChallenge] [] (inTurn 308) rfl rfl
  have answers := answered (inTurn_fair 308) enough
  rw [run_nil, run_nil] at answers
  exact answers

end PassingLink.Ps4
