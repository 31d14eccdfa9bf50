import PassingLink.Lib.Fairness
import PassingLink.Output.GetReport
import PassingLink.Ps4.NonceReport
import PassingLink.Ps4.Transport

/-! Authentication from end to end: a console that has its nonces signed one after the other,
beside the callbacks and the work item. -/
namespace PassingLink.Ps4
open Lib Auth

/-! ### The console -/

structure Challenge where
  nonceId : UInt8
  nonce : List UInt8
  padding : List UInt8
  nonce_size : nonce.length = 256
  padding_size : padding.length = 24

/-- The report that carries bytes `56 * part` to `56 * part + 55` of the padded nonce. -/
def Challenge.packet (env : Env) (c : Challenge) (part : Nat) : List UInt8 :=
  let data := [0xF0, c.nonceId, UInt8.ofNat part, 0] ++ slice (c.nonce ++ c.padding) (56 * part) 56
  data ++ crcBytes (env.crc32Ieee data)

/-- What the console does next with the first of its challenges. -/
inductive Stage where
  | sends (part : Nat)
  | polls
  | reads (parts : List (List UInt8))
  /-- A report was refused, or a reply was not the one that was due. -/
  | refused

structure Console where
  challenges : List Challenge
  stage : Stage
  answers : List (List UInt8)

def signingStateRequest : Request := .getFeatureReport 0xF2 (List.replicate 16 0)

def signatureRequest : Request := .getFeatureReport 0xF1 (List.replicate 64 0)

def Console.request (env : Env) (console : Console) : Option Request :=
  match console.challenges, console.stage with
  | c :: _, .sends part => some (nonceReport (c.packet env part))
  | _ :: _, .polls => some signingStateRequest
  | _ :: _, .reads _ => some signatureRequest
  | _, _ => none

/-- The reply is genuine for the console: it is complete, its CRC fits, and it starts as it has
to. -/
def genuine (env : Env) (rc : Int) (buf : List UInt8) (size : Nat) (header : List UInt8) : Bool :=
  rc = size ∧ buf.length = size ∧ checkCrc env buf = true ∧ buf.take header.length = header

def Console.hear (env : Env) (console : Console) (reply : Reply) : Console :=
  match console.challenges, console.stage, reply with
  | [], _, _ => console
  | _ :: _, .sends part, .set true =>
      { console with stage := if part = 4 then .polls else .sends (part + 1) }
  | c :: _, .polls, .get rc buf =>
      if genuine env rc buf 16 [0xF2, c.nonceId, 0] then { console with stage := .reads [] }
      else if genuine env rc buf 16 [0xF2, c.nonceId, 16] then console
      else { console with stage := .refused }
  | c :: later, .reads parts, .get rc buf =>
      if genuine env rc buf 64 [0xF1, c.nonceId, UInt8.ofNat parts.length, 0] then
        let parts := parts ++ [slice buf 4 56]
        if parts.length = 19 then ⟨later, .sends 0, console.answers ++ [parts.flatten]⟩
        else { console with stage := .reads parts }
      else { console with stage := .refused }
  | _, _, _ => { console with stage := .refused }

/-- What a console has to get for a challenge. -/
def Challenge.answer (env : Env) (key : PS4Key) (c : Challenge) : List UInt8 :=
  signatureBlob key (signatureOf env key c.nonce)

/-- `asked` says that the console waits for the reply to its last request. -/
structure Session where
  console : Console
  asked : Bool
  machine : Machine

inductive Turn where
  | console
  | usb
  | worker
  deriving DecidableEq, Repr

def Session.start (m : Machine) (challenges : List Challenge) : Session where
  console := ⟨challenges, .sends 0, []⟩
  asked := false
  machine := m

/-- The mbedTLS calls succeed. -/
def Session.step (env : Env) (s : Session) : Turn → Session
  | .console =>
      match s.machine.usb with
      | .op _ _ => s
      | .ret reply =>
          if s.asked then { s with console := s.console.hear env reply, asked := false }
          else
            match s.console.request env with
            | none => s
            | some request =>
                { s with asked := true, machine := s.machine.step env (.request request) }
  | .usb => { s with machine := s.machine.step env .usb }
  | .worker => { s with machine := s.machine.step env (.worker .success) }

/-! ### What the device knows of a challenge -/

section Knowledge
variable (env : Env) (key : PS4Key) (c : Challenge)

/-- The first `part` parts of the nonce are there. -/
structure Receives (part : Nat) (s : Shared) : Prop where
  type : s.authState.type = .receivingNonce
  nonce : s.nonce.take (56 * part) = c.nonce.take (56 * part)
  id : part ≠ 0 → s.authState.nonceId = c.nonceId

/-- The signature is there, and `part` parts of it have been read. -/
structure Sends (part : Nat) (s : Shared) : Prop where
  type : s.authState.type = .sendingSignature
  part : s.authState.nextPart.toNat = part
  id : s.authState.nonceId = c.nonceId
  signature : s.nonceSignature = signatureOf env key c.nonce
  pending : s.workPending = false

/-- The nonce is complete and not signed yet. -/
structure Waits (s : Shared) : Prop where
  type : s.authState.type ≠ .sendingSignature
  id : s.authState.nonceId = c.nonceId

/-- Nothing that the console does meanwhile touches what the work item works with. -/
def unchanged (s : Shared) (_ : Request) : Shared := s

def Works (n : Nat) (worker : Auth Unit) (s : Shared) : Prop :=
  Prog.Underway (exec env .success) unchanged (Waits c) (fun _ s' => Sends env key c 0 s') n worker s

/-- The work item has `n` steps left until the signature is there. -/
inductive Signing : Nat → Shared × Auth Unit → Prop
  | queued {s} : Waits c s → s.workPending = true →
      Works env key c 5 (signNonce env) { s with workPending := false } → Signing 6 (s, .ret ())
  | running {n s worker} : Works env key c (n + 1) worker s → Signing (n + 1) (s, worker)
  | ready {s} : Sends env key c 0 s → Signing 0 (s, .ret ())

/-- After `part` parts of the nonce. -/
def Stored (part : Nat) (x : Shared × Auth Unit) : Prop :=
  if part = 5 then ∃ n ≤ 6, Signing env key c n x else Receives c part x.1

/-- After `part` parts of the signature. -/
def Delivered (part : Nat) (x : Shared × Auth Unit) : Prop :=
  if part = 19 then x.1.authState.type = .receivingNonce else Sends env key c part x.1

def stateReply (ready : UInt8) : Reply :=
  let data := [0xF2, c.nonceId, ready] ++ List.replicate 9 0
  .get 16 (data ++ crcBytes (env.crc32Ieee data))

def chunkAnswer (part : Nat) : Reply :=
  .get 64 (signatureReply env c.nonceId (c.answer env key) part)

/-- A callback with `n` operations left that will answer `reply`. -/
def Answers (n : Nat) (reply : Reply) (holds : Shared × Auth Unit → Prop) (m : Machine) : Prop :=
  Prog.Underway (callbackExec env) (workStep env) (fun _ => True) (fun r x => r = reply ∧ holds x) n
    m.usb (m.shared, m.worker)

end Knowledge

def partsRead (blob : List UInt8) (n : Nat) : List (List UInt8) :=
  (List.range n).map fun i => slice blob (56 * i) 56

variable {env : Env} {key : PS4Key} {c : Challenge}

/-! ### A callback that nobody interrupts -/

section Calls
variable {m : Machine} {n : Nat} {reply : Reply} {holds : Shared × Auth Unit → Prop}

theorem usb_idle {idle : Reply} (usb : m.usb = .ret idle) : m.step env .usb = m := by
  obtain ⟨shared, request, callback, worker⟩ := m
  obtain rfl : callback = .ret idle := usb
  rfl

theorem worker_asleep (inv : Inv env m) (type : m.shared.authState.type = .receivingNonce ∨
    m.shared.authState.type = .sendingSignature) (result : MbedResult) :
    m.step env (.worker result) = m ∧ m.worker = .ret () ∧ m.shared.workPending = false := by
  have asleep : m.worker = .ret () ∧ m.shared.workPending = false := by
    rcases type with type | type
    · obtain ⟨pending, -, asleep⟩ := inv.phase.of_receiving type
      exact ⟨asleep, pending⟩
    · obtain ⟨pending, -, asleep, -⟩ := inv.phase.of_sending type
      exact ⟨asleep, pending⟩
  refine ⟨?_, asleep⟩
  simp only [Machine.step, asleep.1, asleep.2, Bool.false_eq_true, if_false]

theorem Answers.usb (answers : Answers env (n + 1) reply holds m) :
    Answers env n reply holds (m.step env .usb) := by
  obtain ⟨-, -, -, later⟩ := Prog.underway_succ.mp answers
  have moved : m.step env .usb = Machine.ofCall m.request
      (Prog.advance (callbackExec env) (m.usb, m.shared, m.worker)) :=
    step_move m.request (m.usb, m.shared, m.worker) none
  rw [moved]
  exact later

theorem Answers.worker (answers : Answers env (n + 1) reply holds m) (result : MbedResult) :
    m.step env (.worker result) = m := by
  obtain ⟨-, waits, -⟩ := Prog.underway_succ.mp answers
  have moved : m.step env (.worker result) = Machine.ofCall m.request
      (m.usb, workStep env (m.shared, m.worker) result) :=
    step_move m.request (m.usb, m.shared, m.worker) (some result)
  rw [moved, waits]
  rfl

theorem Answers.busy (answers : Answers env (n + 1) reply holds m) :
    ∃ o next, m.usb = .op o next :=
  (Prog.underway_succ.mp answers).2.2.1

theorem Answers.done (answers : Answers env 0 reply holds m) :
    m.usb = .ret reply ∧ holds (m.shared, m.worker) := by
  obtain ⟨r, usb, same, held⟩ := Prog.underway_zero.mp answers
  exact ⟨same ▸ usb, held⟩

/-- While the work item sleeps, a request is answered as if it were served at once. -/
theorem answers_request (inv : Inv env m) (usb : ∃ idle, m.usb = .ret idle)
    (type : m.shared.authState.type = .receivingNonce ∨
      m.shared.authState.type = .sendingSignature) {request : Request}
    (within : Prog.Within 4 (request.program env)) {s' : Shared}
    (finish : (request.program env).finish (exec env .success) m.shared = (reply, s'))
    (held : holds (s', .ret ())) :
    ∃ n ≤ 4, Answers env n reply holds (m.step env (.request request)) := by
  obtain ⟨idle, usb⟩ := usb
  obtain ⟨-, asleep, pending⟩ := worker_asleep inv type .success
  have started : m.step env (.request request) =
      { m with request, usb := request.program env } := by
    simp only [Machine.step, usb]
  rw [started]
  have waits (result : MbedResult) :
      workStep env (m.shared, m.worker) result = (m.shared, m.worker) := by
    rw [asleep]
    exact workStep_idle pending result
  refine Prog.underway_of_held (Prog.held_of_atomic (program_atomic inv request) waits) within ?_
  rw [finish_callback]
  simp only [finish, asleep]
  exact ⟨trivial, held⟩

end Calls

/-! ### A part of the nonce -/

section Nonce
variable {part : Nat} (small : part ≤ 4)
include small

theorem Challenge.length_part (c : Challenge) :
    (slice (c.nonce ++ c.padding) (56 * part) 56).length = 56 := by
  apply length_slice
  rw [List.length_append, c.nonce_size, c.padding_size]
  omega

theorem Challenge.length_packet (env : Env) (c : Challenge) :
    (c.packet env part).length = 64 := by
  simp only [Challenge.packet, List.length_append, c.length_part small, length_crcBytes]
  rfl

theorem toNat_part : (UInt8.ofNat part).toNat = part :=
  (UInt8.toNat_ofNat' ..).trans (Nat.mod_eq_of_lt (by omega))

theorem part_eq (number : Nat) (byte : number < 256) :
    UInt8.ofNat part = UInt8.ofNat number ↔ part = number := by
  rw [← UInt8.toNat_inj, toNat_part small, UInt8.toNat_ofNat', Nat.mod_eq_of_lt byte]

theorem noncePayload_packet (env : Env) (c : Challenge) :
    noncePayload (c.packet env part) (UInt8.ofNat part) = slice c.nonce (56 * part) 56 := by
  have size := c.length_part small
  have body : removeSuffix ((c.packet env part).drop 4) 4 =
      slice (c.nonce ++ c.padding) (56 * part) 56 := by
    change removeSuffix (slice (c.nonce ++ c.padding) (56 * part) 56 ++ crcBytes _) 4 = _
    rw [removeSuffix, List.length_append, length_crcBytes, Nat.add_sub_cancel, List.take_left]
  have inside : 56 * part ≤ c.nonce.length := by
    rw [c.nonce_size]
    omega
  have cut := slice_append inside c.padding 56
  have fourth : UInt8.ofNat part = 4 ↔ part = 4 := part_eq small 4 (by decide)
  simp only [noncePayload, body]
  by_cases last : part = 4
  · have left : (slice c.nonce (56 * part) 56).length = 32 := by
      rw [length_slice_eq, c.nonce_size, last]
      rfl
    rw [if_pos (fourth.mpr last), removeSuffix, size, cut]
    exact List.take_left' left
  · rw [if_neg fun four => last (fourth.mp four)]
    apply slice_append_left
    rw [c.nonce_size]
    omega

theorem acceptable_packet (keyed : env.ps4Key = some key) {s : Shared}
    (receives : Receives c part s) : Acceptable env s.authState (c.packet env part) := by
  have size := c.length_packet small env
  have data : ([0xF0, c.nonceId, UInt8.ofNat part, 0] ++
      slice (c.nonce ++ c.padding) (56 * part) 56).length = 60 := by
    rw [List.length_append, c.length_part small]
    rfl
  refine ⟨by rw [keyed]; rfl, size, ?_, receives.type, ?_, ?_⟩
  · rw [Challenge.packet, List.drop_left' data, List.take_left' data]
  · change UInt8.ofNat part ≤ 4
    rw [UInt8.le_iff_toNat_le, toNat_part small]
    exact small
  · by_cases first : part = 0
    · exact .inl ((part_eq small 0 (by decide)).mpr first)
    · exact .inr (receives.id first).symm

/-- The bytes of the nonce that are there once another part has been stored. -/
theorem take_stored {nonce : List UInt8} (size : nonce.length = 256)
    (known : nonce.take (56 * part) = c.nonce.take (56 * part)) :
    (overwrite nonce (56 * part) (slice c.nonce (56 * part) 56)).take (56 * (part + 1)) =
      c.nonce.take (56 * (part + 1)) := by
  have joined : nonce.take (56 * part) ++ slice c.nonce (56 * part) 56 =
      c.nonce.take (56 * (part + 1)) := by
    rw [known, slice, Nat.mul_succ, List.take_add]
  have length : (slice c.nonce (56 * part) 56).length = min 56 (256 - 56 * part) := by
    rw [length_slice_eq, c.nonce_size]
  rw [overwrite, joined, length]
  by_cases last : part = 4
  · have rest : nonce.drop (56 * part + min 56 (256 - 56 * part)) = [] :=
      List.drop_eq_nil_of_le (by omega)
    rw [rest, List.append_nil, List.take_take, Nat.min_self]
  · refine List.take_left' ?_
    rw [List.length_take, c.nonce_size]
    omega

end Nonce

/-! ### The work item on the complete nonce -/

section Work
variable {s : Shared}

theorem finish_setReply (p : Auth Bool) (s : Shared) :
    (setReply p).finish (exec env .success) s =
      (.set (p.finish (exec env .success) s).1, (p.finish (exec env .success) s).2) :=
  Prog.finish_bind (exec env .success) p _ s

theorem works_send (signing : s.authState.type = .signing) (id : s.authState.nonceId = c.nonceId)
    (signature : s.nonceSignature = signatureOf env key c.nonce) (pending : s.workPending = false) :
    Works env key c 1 (sendSignature s.authState) s := by
  have type : s.authState.type ≠ .sendingSignature := by
    rw [signing]
    decide
  refine ⟨⟨type, id⟩, fun _ => rfl, ?_⟩
  simp only [exec, if_true]
  exact ⟨rfl, rfl, id, signature, pending⟩

theorem works_sign (keyed : env.ps4Key = some key) (signing : s.authState.type = .signing)
    (id : s.authState.nonceId = c.nonceId) (pending : s.workPending = false) :
    Works env key c 2 (signHash env s.authState (env.sha256 c.nonce)) s := by
  have type : s.authState.type ≠ .sendingSignature := by
    rw [signing]
    decide
  have program : signHash env s.authState (env.sha256 c.nonce) =
      .op (.rsaSign key (env.sha256 c.nonce)) fun rc =>
        if rc < 0 then return () else sendSignature s.authState := by
    simp only [signHash, keyed, rsaSign_bind]
  rw [program]
  refine ⟨⟨type, id⟩, fun _ => rfl, ?_⟩
  exact @works_send env key c { s with nonceSignature := signatureOf env key c.nonce } signing id
    rfl pending

theorem works_hash (keyed : env.ps4Key = some key) (signing : s.authState.type = .signing)
    (nonce : s.nonce = c.nonce) (id : s.authState.nonceId = c.nonceId)
    (pending : s.workPending = false) : Works env key c 3 (hashNonce env s.authState) s := by
  have type : s.authState.type ≠ .sendingSignature := by
    rw [signing]
    decide
  refine ⟨⟨type, id⟩, fun _ => rfl, ?_⟩
  simp only [exec, nonce]
  exact works_sign keyed signing id pending

theorem works_begin (keyed : env.ps4Key = some key) (waiting : s.authState.type = .waitingToSign)
    (nonce : s.nonce = c.nonce) (id : s.authState.nonceId = c.nonceId)
    (pending : s.workPending = false) : Works env key c 4 (beginSigning env s.authState) s := by
  have type : s.authState.type ≠ .sendingSignature := by
    rw [waiting]
    decide
  refine ⟨⟨type, id⟩, fun _ => rfl, ?_⟩
  simp only [exec, if_true]
  exact @works_hash env key c { s with authState := { s.authState with type := .signing } } keyed
    rfl nonce id pending

theorem works_signNonce (keyed : env.ps4Key = some key)
    (waiting : s.authState.type = .waitingToSign) (nonce : s.nonce = c.nonce)
    (id : s.authState.nonceId = c.nonceId) (pending : s.workPending = false) :
    Works env key c 5 (signNonce env) s := by
  have type : s.authState.type ≠ .sendingSignature := by
    rw [waiting]
    decide
  refine ⟨⟨type, id⟩, fun _ => rfl, ?_⟩
  have goes : (if s.authState.type ≠ .waitingToSign then return ()
      else beginSigning env s.authState : Auth Unit) = beginSigning env s.authState :=
    if_neg (not_not_intro waiting)
  change Works env key c 4 (if s.authState.type ≠ .waitingToSign then return ()
    else beginSigning env s.authState) s
  rw [goes]
  exact works_begin keyed waiting nonce id pending

theorem Signing.work {n : Nat} {x : Shared × Auth Unit} (signing : Signing env key c n x) :
    ∃ n', Signing env key c n' (workStep env x .success) ∧ (n' < n ∨ n = 0 ∧ n' = 0) := by
  cases signing with
  | @queued s _ pending works =>
      have moved : workStep env (s, .ret ()) .success =
          ({ s with workPending := false }, signNonce env) := by
        simp only [workStep, pending, if_true]
      rw [moved]
      exact ⟨5, .running works, .inl (by decide)⟩
  | @running n s worker works =>
      obtain ⟨-, -, ⟨o, next, rfl⟩, later⟩ := Prog.underway_succ.mp works
      refine ⟨n, ?_, .inl (Nat.lt_succ_self n)⟩
      cases n with
      | zero =>
          obtain ⟨u, returned, sends⟩ := Prog.underway_zero.mp later
          have moved : workStep env (s, .op o next) .success =
              ((Prog.advance (exec env .success) (.op o next, s)).2, .ret ()) := by
            rw [← returned]
            rfl
          rw [moved]
          exact .ready sends
      | succ n => exact .running later
  | @ready s sends =>
      rw [workStep_idle sends.pending]
      exact ⟨0, .ready sends, .inr ⟨rfl, rfl⟩⟩

theorem Signing.sends {x : Shared × Auth Unit} (signing : Signing env key c 0 x) :
    Sends env key c 0 x.1 := by
  cases signing with
  | ready sends => exact sends

theorem Signing.waits {n : Nat} {x : Shared × Auth Unit} (signing : Signing env key c (n + 1) x) :
    Waits c x.1 := by
  cases signing with
  | queued waits => exact waits
  | running works => exact (Prog.underway_succ.mp works).1

end Work

/-! ### What the requests of the console do -/

section Requests
variable {part : Nat} {s : Shared}

theorem Receives.reset (type : s.authState.type = .receivingNonce) : Receives c 0 s :=
  ⟨type, rfl, fun other => absurd rfl other⟩

theorem stored_part (able : env.ps4Auth = true) (keyed : env.ps4Key = some key)
    (size : s.nonce.length = 256) (small : part ≤ 4) (receives : Receives c part s) :
    ∃ s', ((nonceReport (c.packet env part)).program env).finish (exec env .success) s =
      (.set true, s') ∧ Stored env key c (part + 1) (s', .ret ()) := by
  have acceptable := acceptable_packet small keyed receives
  have served := (@setReport_finish env (c.packet env part) s able).resolve_right
    fun refused => refused.1 acceptable
  have payload : noncePayload (c.packet env part) ((c.packet env part).getD 2 0) =
      slice c.nonce (56 * part) 56 := noncePayload_packet small env c
  have begin : ((c.packet env part).getD 2 0).toNat * 56 = 56 * part := by
    change (UInt8.ofNat part).toNat * 56 = _
    rw [toNat_part small, Nat.mul_comm]
  have finish : ((nonceReport (c.packet env part)).program env).finish (exec env .success) s =
      (.set true, { s with
        authState := nonceAccepted s.authState c.nonceId (UInt8.ofNat part)
        nonce := overwrite s.nonce (56 * part) (slice c.nonce (56 * part) 56)
        workPending := submitted (UInt8.ofNat part) s.workPending }) := by
    refine (finish_setReply (setReport env (some .feature) 0xF0 (c.packet env part)) s).trans ?_
    rw [served.2, storeNonce_finish, payload, begin]
    rfl
  refine ⟨_, finish, ?_⟩
  have known := take_stored small size receives.nonce
  have fits : 56 * part ≤ s.nonce.length := by
    rw [size]
    omega
  have fourth : UInt8.ofNat part = 4 ↔ part = 4 := part_eq small 4 (by decide)
  have first : UInt8.ofNat part = 0 ↔ part = 0 := part_eq small 0 (by decide)
  rw [Stored]
  by_cases last : part = 4
  · have whole : overwrite s.nonce (56 * part) (slice c.nonce (56 * part) 56) = c.nonce := by
      have length : (overwrite s.nonce (56 * part) (slice c.nonce (56 * part) 56)).length = 256 := by
        refine (length_overwrite ?_).trans size
        rw [length_slice_eq, c.nonce_size, size, last]
        decide
      rw [last] at known length ⊢
      rwa [List.take_of_length_le (by omega),
        List.take_of_length_le (by rw [c.nonce_size]; omega)] at known
    have same : s.authState.nonceId = c.nonceId := receives.id (by omega)
    have accepted : nonceAccepted s.authState c.nonceId (UInt8.ofNat part) =
        { s.authState with type := .waitingToSign } := by
      rw [fourth.mpr last]
      rfl
    have submits : submitted (UInt8.ofNat part) s.workPending = true := by
      rw [submitted, if_pos (fourth.mpr last)]
    rw [if_pos (by omega), whole, accepted, submits]
    refine ⟨6, Nat.le_refl 6, .queued ⟨?_, same⟩ rfl ?_⟩
    · intro sending
      cases sending
    · exact works_signNonce keyed rfl rfl same rfl
  · rw [if_neg (by omega)]
    refine ⟨(nonceAccepted_type fun four => last (fourth.mp four)).trans receives.type, known, ?_⟩
    intro _
    simp only [nonceAccepted, if_neg fun four => last (fourth.mp four)]
    by_cases zero : part = 0
    · rw [if_pos (first.mpr zero)]
    · rw [if_neg fun other => zero (first.mp other)]
      exact receives.id zero

theorem signatureRequest_within (env : Env) : Prog.Within 4 (signatureRequest.program env) :=
  (Prog.within_map fun answer : Int × List UInt8 => Reply.get answer.1 answer.2).mpr
    (Output.ps4Feature_within env 0xF1 (List.replicate 64 0))

theorem delivered_part (able : env.ps4Auth = true) (keyed : env.ps4Key = some key)
    (sends : Sends env key c part s) (bound : part < 19) :
    ∃ s', (signatureRequest.program env).finish (exec env .success) s =
      (chunkAnswer env key c part, s') ∧ Delivered env key c (part + 1) (s', .ret ()) := by
  have low : s.authState.nextPart < 19 := by
    rw [UInt8.lt_iff_toNat_lt, sends.part]
    exact bound
  have size : s.nonceSignature.length = 256 := by
    rw [sends.signature]
    exact env.rsaSign_size _ _
  have served := chunk_request able keyed sends.type low size
    (List.length_replicate : (List.replicate 64 (0 : UInt8)).length = 64)
  refine ⟨{ s with authState := chunkSent s.authState }, served.trans ?_, ?_⟩
  · rw [chunkReport_eq, sends.id, sends.part, sends.signature]
    rfl
  · have next : (s.authState.nextPart + 1).toNat = part + 1 := by
      rw [toNat_succ low, sends.part]
    rw [Delivered]
    by_cases last : part = 18
    · have sent : s.authState.nextPart + 1 = 19 := UInt8.toNat_inj.mp (next.trans (by rw [last]; rfl))
      rw [if_pos (by omega), chunkSent_last sent]
    · have more : s.authState.nextPart + 1 ≠ 19 := by
        intro sent
        rw [sent] at next
        exact last (Nat.succ.inj next.symm)
      rw [if_neg (by omega), chunkSent_more more]
      exact ⟨sends.type, next, sends.id, sends.signature, sends.pending⟩

theorem polled {m : Machine} (able : env.ps4Auth = true)
    (usb : m.usb = signingStateRequest.program env) (id : m.shared.authState.nonceId = c.nonceId) :
    m.step env .usb = { m with
      usb := .ret (stateReply env c (if m.shared.authState.type = .sendingSignature then 0 else 16)) } := by
  have program : signingStateRequest.program env =
      getReply (getSigningState env (overwrite (List.replicate 16 0) 0 [0xF2])) := by
    simp only [signingStateRequest, Request.program, getFeatureReport, able]
    rfl
  have size (ready : UInt8) : (overwrite (List.replicate 16 (0 : UInt8)) 0 [0xF2]).length =
      ([0xF2, c.nonceId, ready] ++ List.replicate 9 0).length + 4 := rfl
  simp only [Machine.step, usb, program, getReply, getSigningState, load_bind, Prog.op_bind,
    Prog.advance, exec, id, Prog.pure_eq, Prog.ret_bind, writeWithCrc_exact (size _)]
  rfl

end Requests

/-! ### What the console hears -/

section Hears
variable {console : Console} {later : List Challenge}

theorem genuine_reply {data header rest : List UInt8} {n : Nat} (starts : data = header ++ rest)
    (size : data.length + 4 = n) :
    genuine env n (data ++ crcBytes (env.crc32Ieee data)) n header = true := by
  have length : (data ++ crcBytes (env.crc32Ieee data)).length = n := by
    rw [List.length_append, length_crcBytes, size]
  have first : (data ++ crcBytes (env.crc32Ieee data)).take header.length = header := by
    rw [starts, List.append_assoc, List.take_left]
  exact decide_eq_true ⟨rfl, length, checkCrc_append env data, first⟩

theorem hear_sent (challenges : console.challenges = c :: later) {part : Nat}
    (stage : console.stage = .sends part) :
    console.hear env (.set true) =
      { console with stage := if part = 4 then .polls else .sends (part + 1) } := by
  simp only [Console.hear, challenges, stage]

theorem hear_ready (challenges : console.challenges = c :: later) (stage : console.stage = .polls) :
    console.hear env (stateReply env c 0) = { console with stage := .reads [] } := by
  have known := @genuine_reply env ([0xF2, c.nonceId, 0] ++ List.replicate 9 0)
    [0xF2, c.nonceId, 0] _ 16 rfl rfl
  simp only [Console.hear, challenges, stage, stateReply]
  exact if_pos known

theorem hear_early (challenges : console.challenges = c :: later) (stage : console.stage = .polls) :
    console.hear env (stateReply env c 16) = console := by
  have known := @genuine_reply env ([0xF2, c.nonceId, 16] ++ List.replicate 9 0)
    [0xF2, c.nonceId, 16] _ 16 rfl rfl
  have other (crc : List UInt8) :
      ¬ genuine env 16 ([0xF2, c.nonceId, 16] ++ List.replicate 9 0 ++ crc) 16
        [0xF2, c.nonceId, 0] = true := by
    intro taken
    obtain ⟨-, -, -, first⟩ := of_decide_eq_true taken
    cases first
  simp only [Console.hear, challenges, stage, stateReply]
  exact (if_neg (other _)).trans (if_pos known)

@[simp] theorem length_partsRead (blob : List UInt8) (n : Nat) : (partsRead blob n).length = n := by
  rw [partsRead, List.length_map, List.length_range]

theorem partsRead_succ (blob : List UInt8) (n : Nat) :
    partsRead blob (n + 1) = partsRead blob n ++ [slice blob (56 * n) 56] := by
  rw [partsRead, List.range_succ, List.map_append]
  rfl

theorem flatten_partsRead (blob : List UInt8) (n : Nat) :
    (partsRead blob n).flatten = slice blob 0 (56 * n) := by
  induction n with
  | zero => exact (slice_zero blob 0).symm
  | succ n ih =>
      rw [partsRead_succ, List.flatten_append, ih, Nat.mul_succ, slice_add, Nat.zero_add,
        List.flatten_cons, List.flatten_nil, List.append_nil]

theorem length_answer (env : Env) (key : PS4Key) (c : Challenge) :
    (c.answer env key).length = 1064 :=
  length_signatureBlob (env.rsaSign_size key _)

theorem hear_part (challenges : console.challenges = c :: later) {part : Nat}
    (stage : console.stage = .reads (partsRead (c.answer env key) part)) (bound : part < 19) :
    console.hear env (chunkAnswer env key c part) =
      if part = 18 then ⟨later, .sends 0, console.answers ++ [c.answer env key]⟩
      else { console with stage := .reads (partsRead (c.answer env key) (part + 1)) } := by
  have size : (slice (c.answer env key) (56 * part) 56).length = 56 := by
    apply length_slice
    rw [length_answer]
    omega
  have length : ([0xF1, c.nonceId, UInt8.ofNat part, 0] ++
      slice (c.answer env key) (56 * part) 56).length + 4 = 64 := by
    rw [List.length_append, size]
    rfl
  have known := @genuine_reply env _ [0xF1, c.nonceId, UInt8.ofNat part, 0] _ 64 rfl length
  have payload (crc : List UInt8) : slice ([0xF1, c.nonceId, UInt8.ofNat part, 0] ++
      slice (c.answer env key) (56 * part) 56 ++ crc) 4 56 =
        slice (c.answer env key) (56 * part) 56 := by
    change (slice (c.answer env key) (56 * part) 56 ++ crc).take 56 = _
    exact List.take_left' size
  simp only [Console.hear, challenges, stage, chunkAnswer, signatureReply, length_partsRead]
  refine (if_pos known).trans ?_
  rw [payload, ← partsRead_succ, length_partsRead]
  by_cases last : part = 18
  · have whole : (partsRead (c.answer env key) (part + 1)).flatten = c.answer env key := by
      rw [flatten_partsRead, last]
      exact List.take_of_length_le (Nat.le_of_eq (length_answer env key c))
    rw [if_pos (by omega), if_pos last, whole]
  · rw [if_neg (by omega), if_neg last]

end Hears

end PassingLink.Ps4
