import PassingLink.Ps4.Machine

/-! Which side owns the authentication state and the buffers at any moment, and what a
single step of either side can do to them. -/
namespace PassingLink.Ps4
open Lib Auth

section Phases
variable (env : Env)

/-- The callback is finished or has not looked at the state yet. -/
def Neutral (request : Request) (usb : Auth Reply) : Prop :=
  (∃ reply, usb = .ret reply) ∨ usb = request.program env

/-- The callback is inside `set_nonce`, past the checks on the loaded state. -/
structure Admitted (s : Shared) (request : Request) (p : NoncePacket) : Prop where
  packet : request.noncePacket = some p
  size : p.payload.length = if p.noncePart = 4 then 32 else 56
  part : p.noncePart ≤ 4
  id : p.noncePart ≠ 0 → p.nonceId = s.authState.nonceId
  able : env.CanSign

inductive ReceivingUsb (s : Shared) (request : Request) : Auth Reply → Prop
  | neutral {usb} : Neutral env request usb → ReceivingUsb s request usb
  | store {p} : Admitted env s request p →
      ReceivingUsb s request
        (setReply (storeNonce s.authState p.nonceId p.noncePart p.payload))
  | commit {p} : Admitted env s request p →
      ReceivingUsb s request (setReply (commitNonce s.authState p.nonceId p.noncePart))

/-- The reply to a signature request, from the answer of `get_next_signature_chunk`. -/
def chunkResult (state : AuthState) (buf : List UInt8) (p : Auth (Option (List UInt8))) :
    Auth Reply :=
  getReply do return sendChunk env state buf (← p)

def Request.AsksChunk (request : Request) : Prop :=
  ∃ old, request = .getFeatureReport 0xF1 old ∧ old.length = 64

inductive SendingUsb (s : Shared) (request : Request) : Auth Reply → Prop
  | neutral {usb} : Neutral env request usb → SendingUsb s request usb
  | get {buf} : request.AsksChunk → buf.length = 64 →
      SendingUsb s request (chunkResult env s.authState buf (getNextSignatureChunk env 56))
  | copy {buf} : request.AsksChunk → buf.length = 64 →
      SendingUsb s request (chunkResult env s.authState buf (copyChunk env s.authState 56))
  | advance {buf key} : request.AsksChunk → buf.length = 64 →
      env.ps4Key = some key →
      SendingUsb s request (chunkResult env s.authState buf (advanceChunk s.authState
        (slice (signatureBlob key s.nonceSignature) (s.authState.nextPart.toNat * 56) 56)))

def signatureOf (key : PS4Key) (nonce : List UInt8) : List UInt8 :=
  env.rsaSign key (env.sha256 nonce)

/-- Who owns the buffers: the USB side while a nonce is received or a signature sent,
the work item from the submission to its last compare-and-swap. -/
inductive Phase (s : Shared) (request : Request) : Auth Reply → Auth Unit → Prop
  | receiving {usb} : s.authState.type = .receivingNonce → s.workPending = false →
      ReceivingUsb env s request usb → Phase s request usb (.ret ())
  | owed : s.authState.type = .waitingToSign → s.workPending = false →
      Phase s request (setReply (submitIfDone 4)) (.ret ())
  | queued {usb} : s.authState.type = .waitingToSign → s.workPending = true →
      Neutral env request usb → Phase s request usb (.ret ())
  | started {usb} : s.authState.type = .waitingToSign → s.workPending = false →
      Neutral env request usb → Phase s request usb (signNonce env)
  | loaded {usb} : s.authState.type = .waitingToSign → s.workPending = false →
      Neutral env request usb → Phase s request usb (beginSigning env s.authState)
  | hashing {usb} : s.authState.type = .signing → s.workPending = false →
      Neutral env request usb → Phase s request usb (hashNonce env s.authState)
  | hashed {usb} : s.authState.type = .signing → s.workPending = false →
      Neutral env request usb →
      Phase s request usb (signHash env s.authState (env.sha256 s.nonce))
  | signed {usb key} : s.authState.type = .signing → s.workPending = false →
      env.ps4Key = some key → s.nonceSignature = signatureOf env key s.nonce →
      Neutral env request usb → Phase s request usb (sendSignature s.authState)
  | sending {usb key} : s.authState.type = .sendingSignature → s.workPending = false →
      env.ps4Key = some key → s.nonceSignature = signatureOf env key s.nonce →
      SendingUsb env s request usb → Phase s request usb (.ret ())
  | failed {usb} : s.authState.type = .signing → s.workPending = false →
      Neutral env request usb → Phase s request usb (.ret ())

structure Inv (m : Machine) : Prop where
  phase : Phase env m.shared m.request m.usb m.worker
  calm : m.shared.panicked = false
  able : m.shared.authState.type ≠ .receivingNonce → env.CanSign
  nonce_size : m.shared.nonce.length = 256
  signature_size : m.shared.nonceSignature.length = 256
  next_part : m.shared.authState.type = .sendingSignature → m.shared.authState.nextPart < 19

def Machine.Stuck (m : Machine) : Prop :=
  m.shared.authState.type = .signing ∧ m.worker = .ret ()

def chunkReport (state : AuthState) (chunk : List UInt8) : List UInt8 :=
  chunkData state chunk ++ crcBytes (env.crc32Ieee (chunkData state chunk))

/-- Everything one step can do, with what an observer sees of it. -/
inductive Effect (m m' : Machine) : Observation → Prop
  | quiet : m'.shared.authState = m.shared.authState → m'.shared.nonce = m.shared.nonce →
      m'.shared.nonceSignature = m.shared.nonceSignature → m'.accepting = m.accepting →
      (m'.Stuck ↔ m.Stuck) → Effect m m' .silent
  | store {p} : m.shared.authState.type = .receivingNonce → Admitted env m.shared m.request p →
      m'.shared.authState = m.shared.authState →
      m'.shared.nonce = overwrite m.shared.nonce (p.noncePart.toNat * 56) p.payload →
      m'.shared.nonceSignature = m.shared.nonceSignature → m.accepting = none →
      m'.accepting = some p → Effect m m' .silent
  | accept {p} : m.shared.authState.type = .receivingNonce → Admitted env m.shared m.request p →
      m'.shared.authState = nonceAccepted m.shared.authState p.nonceId p.noncePart →
      m'.shared.nonce = m.shared.nonce →
      m'.shared.nonceSignature = m.shared.nonceSignature → m.accepting = some p →
      m'.accepting = none → Effect m m' (.accepted p)
  | begin : m.shared.authState.type = .waitingToSign →
      m'.shared.authState = { m.shared.authState with type := .signing } →
      m'.shared.nonce = m.shared.nonce →
      m'.shared.nonceSignature = m.shared.nonceSignature → m.accepting = none →
      m'.accepting = none → ¬ m'.Stuck → Effect m m' .silent
  | mbedtls {result : MbedResult} : m.shared.authState.type = .signing →
      m'.shared.authState = m.shared.authState → m'.shared.nonce = m.shared.nonce →
      m.accepting = none → m'.accepting = none → ¬ m.Stuck →
      (m'.Stuck ↔ result.error ≠ 0) → Effect m m' (.result result.rc)
  | send {key} : m.shared.authState.type = .signing →
      m'.shared.authState =
        { m.shared.authState with type := .sendingSignature, nextPart := 0 } →
      m'.shared.nonce = m.shared.nonce →
      m'.shared.nonceSignature = m.shared.nonceSignature → env.ps4Key = some key →
      m.shared.nonceSignature = signatureOf env key m.shared.nonce → m.accepting = none →
      m'.accepting = none → ¬ m.Stuck → Effect m m' .silent
  | sendChunk {key} : m.shared.authState.type = .sendingSignature →
      m'.shared.authState = chunkSent m.shared.authState →
      m'.shared.nonce = m.shared.nonce →
      m'.shared.nonceSignature = m.shared.nonceSignature → env.ps4Key = some key →
      m.request.AsksChunk → m.accepting = none → m'.accepting = none →
      Effect m m' (.chunk (chunkReport env m.shared.authState
        (slice (signatureBlob key m.shared.nonceSignature)
          (m.shared.authState.nextPart.toNat * 56) 56)))

/-- The invariant is kept, and the effect is one of the listed ones. -/
structure SoundStep (m m' : Machine) (seen : Observation) : Prop where
  inv : Inv env m'
  effect : Effect env m m' seen

/-- What a callback can have become after its first look at the state. -/
inductive Loaded (s : Shared) (request : Request) : Auth Reply → Prop
  | answered {reply} : request.chunkReply reply = none → Loaded s request (.ret reply)
  | admitted {p} : s.authState.type = .receivingNonce → Admitted env s request p →
      Loaded s request (setReply (storeNonce s.authState p.nonceId p.noncePart p.payload))
  | ready {buf} : s.authState.type = .sendingSignature → request.AsksChunk → buf.length = 64 →
      Loaded s request (chunkResult env s.authState buf (getNextSignatureChunk env 56))

end Phases

variable {env : Env}

/-! ### A callback up to its first look at the state -/

inductive Ready (env : Env) (request : Request) : Auth Reply → Prop
  | answered {reply} : request.chunkReply reply = none → Ready env request (.ret reply)
  | loads {next : AuthState → Auth Reply} :
      (∀ s : Shared, Loaded env s request (next s.authState)) → Ready env request (.op .load next)

theorem setNonce_ready {reportType : Option HidReportType} {reportId : UInt8} {data : List UInt8}
    (auth : env.ps4Auth = true) (size : data.length = 64) :
    Ready env (.setReport reportType reportId data)
      (setReply (setNonce env (data.getD 1 0) (data.getD 2 0)
        (noncePayload data (data.getD 2 0)))) := by
  unfold setNonce setReply
  cases provisioned : env.provisioningData with
  | none => exact .answered rfl
  | some pd =>
      cases keyed : pd.ps4Key with
      | none => simp only [keyed]; exact .answered rfl
      | some key =>
          simp only [keyed, load_bind, Prog.op_bind]
          refine .loads fun s => ?_
          by_cases receiving : s.authState.type = .receivingNonce
          · by_cases large : data.getD 2 0 > 4
            · simp only [receiving, ne_eq, not_true_eq_false, if_false, if_pos large]
              exact .answered rfl
            · by_cases mismatch : data.getD 2 0 ≠ 0 ∧ data.getD 1 0 ≠ s.authState.nonceId
              · simp only [receiving, ne_eq, not_true_eq_false, if_false, if_neg large]
                rw [if_pos mismatch]
                exact .answered rfl
              · simp only [receiving, ne_eq, not_true_eq_false, if_false, if_neg large]
                rw [if_neg mismatch]
                refine @Loaded.admitted _ _ _ ⟨_, _, _⟩ receiving ⟨rfl, ?_, ?_, ?_, ?_⟩
                · exact length_noncePayload size _
                · exact UInt8.not_lt.mp large
                · intro other
                  exact Decidable.byContradiction fun differs => mismatch ⟨other, differs⟩
                · refine ⟨auth, ?_⟩
                  simp only [Env.ps4Key, provisioned, Option.bind_some, keyed, Option.isSome_some]
          · simp only [ne_eq, receiving, not_false_eq_true, if_true]
            exact .answered rfl

theorem getSignature_ready {old : List UInt8} :
    Ready env (.getFeatureReport 0xF1 old)
      (getReply (getSignature env (overwrite old 0 [0xF1]))) := by
  unfold getSignature getReply
  simp only [load_bind, Prog.op_bind]
  refine .loads fun s => ?_
  by_cases sending : s.authState.type = .sendingSignature
  · by_cases size : (overwrite old 0 [0xF1]).length = 64
    · have asked : old.length = 64 := by
        simp only [overwrite, List.take_zero, List.nil_append, List.length_append,
          List.length_drop, List.length_singleton] at size
        omega
      simp only [sending, size, ne_eq, not_true_eq_false, if_false]
      exact .ready sending ⟨old, rfl, asked⟩ size
    · simp only [sending, ne_eq, not_true_eq_false, if_false, size, not_false_eq_true, if_true]
      exact .answered rfl
  · simp only [ne_eq, sending, not_false_eq_true, if_true]
    exact .answered rfl

theorem chunkReply_other {reportId : UInt8} (other : reportId ≠ 0xF1) (old : List UInt8)
    (reply : Reply) : (Request.getFeatureReport reportId old).chunkReply reply = none := by
  cases reply with
  | set => rfl
  | get rc buf => simp only [Request.chunkReply, other, false_and, if_false]

theorem chunkReply_failed (request : Request) (buf : List UInt8) :
    request.chunkReply (.get (-1) buf) = none := by
  cases request with
  | setReport => rfl
  | getFeatureReport reportId old =>
      have negative : ¬ (0 : Int) ≤ -1 := by decide
      simp only [Request.chunkReply, negative, and_false, if_false]

theorem request_ready (env : Env) (request : Request) :
    Ready env request (request.program env) := by
  cases request with
  | setReport reportType reportId data =>
      simp only [Request.program, Ps4.setReport]
      split
      · exact .answered rfl
      split
      · split
        · exact .answered rfl
        rename_i auth
        split
        · exact .answered rfl
        rename_i size
        split
        · exact .answered rfl
        refine setNonce_ready ?_ (Decidable.not_not.mp size)
        simpa only [Bool.not_eq_true, Bool.not_eq_false'] using auth
      · exact .answered rfl
  | getFeatureReport reportId buf =>
      simp only [Request.program, Ps4.getFeatureReport]
      split
      · rename_i id
        split <;> exact .answered (chunkReply_other (by rw [id]; decide) _ _)
      split
      · rename_i id
        subst id
        split
        · exact getSignature_ready
        · exact .answered (chunkReply_failed _ _)
      split
      · rename_i id
        have other := @chunkReply_other reportId (by rw [id]; decide) buf
        split
        · unfold getSigningState getReply
          simp only [load_bind, Prog.op_bind]
          exact .loads fun s => .answered (other _)
        · exact .answered (other _)
      split
      · rename_i id
        split <;> exact .answered (chunkReply_other (by rw [id]; decide) _ _)
      · exact .answered (chunkReply_failed _ _)

theorem Neutral.start (env : Env) (request : Request) :
    Neutral env request (request.program env) := Or.inr rfl

theorem Neutral.finished (reply : Reply) (request : Request) :
    Neutral env request (.ret reply) := Or.inl ⟨reply, rfl⟩

theorem Neutral.ready {request : Request} {usb : Auth Reply} (neutral : Neutral env request usb) :
    (∃ reply, usb = .ret reply) ∨ Ready env request usb := by
  rcases neutral with finished | start
  · exact Or.inl finished
  · rw [start]
    exact Or.inr (request_ready env request)

theorem Neutral.not_accepting {m : Machine} (neutral : Neutral env m.request m.usb) :
    m.accepting = none := by
  unfold Machine.accepting
  rcases neutral.ready with ⟨reply, finished⟩ | ready
  · rw [finished]
  · generalize m.usb = usb at ready
    cases ready <;> rfl

theorem Loaded.not_accepting {m : Machine} (loaded : Loaded env m.shared m.request m.usb) :
    m.accepting = none := by
  unfold Machine.accepting
  generalize m.usb = usb at loaded
  cases loaded <;> rfl

theorem Neutral.step {m : Machine} (neutral : Neutral env m.request m.usb) :
    m.step env .usb = m ∧ m.observe env .usb = .silent ∨
      ∃ usb, m.step env .usb = { m with usb } ∧ Loaded env m.shared m.request usb ∧
        m.observe env .usb = .silent := by
  have idle := neutral.not_accepting
  rcases neutral.ready with ⟨reply, finished⟩ | ready
  · refine Or.inl ⟨?_, ?_⟩
    · simp only [Machine.step, finished, Prog.advance]
      rw [← finished]
    · simp only [Machine.observe, idle]
      rw [finished]
  · obtain ⟨shared, request, usb, worker⟩ := m
    simp only at ready idle ⊢
    cases ready with
    | answered silent => exact Or.inl ⟨rfl, by simp only [Machine.observe, idle]⟩
    | @loads next loads =>
        refine Or.inr ⟨next shared.authState, rfl, loads shared, ?_⟩
        simp only [Machine.observe, idle, Machine.step, Prog.advance, exec]
        cases result : next shared.authState with
        | op o more => rfl
        | ret reply =>
            have loaded := loads shared
            rw [result] at loaded
            cases loaded with
            | answered silent => simp only [silent]

/-! ### Reading a phase -/

section Reading
variable {s : Shared} {request : Request} {usb : Auth Reply} {worker : Auth Unit}

theorem Phase.of_receiving (phase : Phase env s request usb worker)
    (type : s.authState.type = .receivingNonce) :
    s.workPending = false ∧ ReceivingUsb env s request usb ∧ worker = .ret () := by
  cases phase with
  | receiving _ pending calling => exact ⟨pending, calling, rfl⟩
  | owed other | queued other | started other | loaded other | hashing other | hashed other
  | signed other | sending other | failed other => cases type.symm.trans other

theorem Phase.of_sending (phase : Phase env s request usb worker)
    (type : s.authState.type = .sendingSignature) :
    s.workPending = false ∧ SendingUsb env s request usb ∧ worker = .ret () ∧
      ∃ key, env.ps4Key = some key ∧ s.nonceSignature = signatureOf env key s.nonce := by
  cases phase with
  | sending _ pending keyed signature calling => exact ⟨pending, calling, rfl, _, keyed, signature⟩
  | receiving other | owed other | queued other | started other | loaded other | hashing other
  | hashed other | signed other | failed other => cases type.symm.trans other

theorem submit_not_neutral : ¬ Neutral env request (setReply (submitIfDone 4)) := by
  intro neutral
  rcases neutral.ready with ⟨reply, finished⟩ | ready
  · cases finished
  · cases ready

/-- A phase says no more of a callback that is neutral than that it is. -/
theorem Phase.swap {request' : Request} {usb' : Auth Reply}
    (phase : Phase env s request usb worker) (neutral : Neutral env request usb)
    (neutral' : Neutral env request' usb') : Phase env s request' usb' worker := by
  cases phase with
  | receiving type pending _ => exact .receiving type pending (.neutral neutral')
  | owed => exact absurd neutral submit_not_neutral
  | queued type pending _ => exact .queued type pending neutral'
  | started type pending _ => exact .started type pending neutral'
  | loaded type pending _ => exact .loaded type pending neutral'
  | hashing type pending _ => exact .hashing type pending neutral'
  | hashed type pending _ => exact .hashed type pending neutral'
  | signed type pending keyed signature _ => exact .signed type pending keyed signature neutral'
  | sending type pending keyed signature _ =>
      exact .sending type pending keyed signature (.neutral neutral')
  | failed type pending _ => exact .failed type pending neutral'

end Reading

theorem Inv.idle_of_owed {m : Machine} (inv : Inv env m)
    (calling : m.usb = setReply (submitIfDone 4)) : m.worker = .ret () := by
  have phase := inv.phase
  have other : ¬ Neutral env m.request m.usb := by
    rw [calling]
    exact submit_not_neutral
  generalize m.usb = usb at phase other
  generalize m.worker = worker at phase
  cases phase with
  | receiving | owed | sending => rfl
  | queued _ _ is | started _ _ is | loaded _ _ is | hashing _ _ is | hashed _ _ is
  | signed _ _ _ _ is | failed _ _ is => exact absurd is other

theorem Effect.of_usb {m : Machine} {request : Request} {usb : Auth Reply}
    (idle : m.accepting = none)
    (idle' : ({ m with request, usb } : Machine).accepting = none) :
    Effect env m { m with request, usb } .silent :=
  .quiet rfl rfl rfl (idle'.trans idle.symm) Iff.rfl

theorem Inv.of_usb {m : Machine} (inv : Inv env m) {request : Request} {usb : Auth Reply}
    (phase : Phase env m.shared request usb m.worker) : Inv env { m with request, usb } :=
  ⟨phase, inv.calm, inv.able, inv.nonce_size, inv.signature_size, inv.next_part⟩

theorem Inv.key_of_busy {m : Machine} (inv : Inv env m)
    (busy : m.shared.authState.type ≠ .receivingNonce) : ∃ key, env.ps4Key = some key :=
  Option.isSome_iff_exists.mp (inv.able busy).2

theorem Admitted.fits {s : Shared} {request : Request} {p : NoncePacket}
    (admitted : Admitted env s request p) : p.noncePart.toNat * 56 + p.payload.length ≤ 256 := by
  have length := admitted.size
  have small : p.noncePart.toNat ≤ 4 := UInt8.le_iff_toNat_le.mp admitted.part
  by_cases last : p.noncePart = 4
  · rw [if_pos last] at length
    omega
  · have other : p.noncePart.toNat ≠ 4 := fun same => last (UInt8.toNat_inj.mp same)
    rw [if_neg last] at length
    omega

theorem accepting_commit {s : Shared} {request : Request} {worker : Auth Unit} {p : NoncePacket}
    (type : s.authState.type = .receivingNonce) (packet : request.noncePacket = some p) :
    Machine.accepting ⟨s, request, setReply (commitNonce s.authState p.nonceId p.noncePart),
      worker⟩ = some p := by
  change (if s.authState.type = .receivingNonce ∧ s.authState.toInt = s.authState.toInt then
    request.noncePacket else none) = some p
  rw [if_pos ⟨type, rfl⟩, packet]

theorem accepting_advance {s : Shared} {old buf chunk : List UInt8} {worker : Auth Unit} :
    Machine.accepting ⟨s, .getFeatureReport 0xF1 old,
      chunkResult env s.authState buf (advanceChunk s.authState chunk), worker⟩ = none := by
  change (if s.authState.type = .receivingNonce ∧ s.authState.toInt = s.authState.toInt then
    none else none) = none
  rw [ite_self]

theorem Effect.stay (m : Machine) : Effect env m m .silent :=
  .quiet rfl rfl rfl rfl Iff.rfl

/-! ### One step of each kind -/

theorem step_request {m : Machine} (inv : Inv env m) (req : Request) :
    SoundStep env m (m.step env (.request req)) (m.observe env (.request req)) := by
  simp only [Machine.step, Machine.observe]
  split
  · rename_i reply finished
    have neutral : Neutral env m.request m.usb := Or.inl ⟨reply, finished⟩
    have started := Neutral.start env req
    refine ⟨inv.of_usb (inv.phase.swap neutral started), ?_⟩
    exact .of_usb neutral.not_accepting (Neutral.not_accepting started)
  · exact ⟨inv, .stay m⟩

theorem step_neutral {m : Machine} (inv : Inv env m) (neutral : Neutral env m.request m.usb) :
    SoundStep env m (m.step env .usb) (m.observe env .usb) := by
  rcases neutral.step with ⟨same, silent⟩ | ⟨usb, moved, loaded, silent⟩
  · rw [same, silent]
    exact ⟨inv, .stay m⟩
  · rw [moved, silent]
    have effect : Effect env m { m with usb } .silent :=
      .of_usb neutral.not_accepting (Loaded.not_accepting loaded)
    refine ⟨inv.of_usb ?_, effect⟩
    cases loaded with
    | answered => exact inv.phase.swap neutral (.finished _ _)
    | admitted type admitted =>
        obtain ⟨pending, _, idle⟩ := inv.phase.of_receiving type
        rw [idle]
        exact .receiving type pending (.store admitted)
    | ready type request size =>
        obtain ⟨pending, _, idle, key, keyed, signature⟩ := inv.phase.of_sending type
        rw [idle]
        exact .sending type pending keyed signature (.get request size)

theorem step_store {m : Machine} (inv : Inv env m) {p : NoncePacket}
    (type : m.shared.authState.type = .receivingNonce)
    (admitted : Admitted env m.shared m.request p)
    (calling : m.usb = setReply (storeNonce m.shared.authState p.nonceId p.noncePart p.payload)) :
    SoundStep env m (m.step env .usb) (m.observe env .usb) := by
  obtain ⟨pending, _, idle⟩ := inv.phase.of_receiving type
  obtain ⟨s, request, usb, worker⟩ := m
  simp only at type admitted calling pending idle
  subst calling idle
  have fits : p.noncePart.toNat * 56 + p.payload.length ≤ s.nonce.length :=
    le_of_le_of_eq admitted.fits inv.nonce_size.symm
  have silent : Machine.observe env ⟨s, request,
      setReply (storeNonce s.authState p.nonceId p.noncePart p.payload), .ret ()⟩ .usb = .silent := rfl
  rw [silent]
  constructor
  · refine ⟨.receiving type pending (.commit ⟨admitted.packet, admitted.size, admitted.part,
      admitted.id, admitted.able⟩), inv.calm, inv.able, ?_, inv.signature_size, inv.next_part⟩
    exact (length_overwrite fits).trans inv.nonce_size
  · exact .store type admitted rfl rfl rfl rfl (accepting_commit type admitted.packet)

/-- The compare-and-swap of `set_nonce` succeeds: nothing else touches the state while a
nonce is received. -/
theorem step_commit {m : Machine} (inv : Inv env m) {p : NoncePacket}
    (type : m.shared.authState.type = .receivingNonce)
    (admitted : Admitted env m.shared m.request p)
    (calling : m.usb = setReply (commitNonce m.shared.authState p.nonceId p.noncePart)) :
    SoundStep env m (m.step env .usb) (m.observe env .usb) := by
  obtain ⟨pending, _, idle⟩ := inv.phase.of_receiving type
  obtain ⟨s, request, usb, worker⟩ := m
  simp only at type admitted calling pending idle
  subst calling idle
  have moved : Machine.step env ⟨s, request,
      setReply (commitNonce s.authState p.nonceId p.noncePart), .ret ()⟩ .usb =
      ⟨{ s with authState := nonceAccepted s.authState p.nonceId p.noncePart }, request,
        setReply (submitIfDone p.noncePart), .ret ()⟩ := by
    simp only [Machine.step, setReply, commitNonce, cas_bind, Prog.op_bind, Prog.advance, exec,
      if_true]
  have ready : Machine.accepting ⟨s, request,
      setReply (commitNonce s.authState p.nonceId p.noncePart), .ret ()⟩ = some p :=
    accepting_commit type admitted.packet
  have seen : Machine.observe env ⟨s, request,
      setReply (commitNonce s.authState p.nonceId p.noncePart), .ret ()⟩ .usb = .accepted p := by
    simp only [Machine.observe, ready]
  rw [moved, seen]
  by_cases last : p.noncePart = 4
  · rw [last]
    have complete : nonceAccepted s.authState p.nonceId 4 =
        { s.authState with type := .waitingToSign } := rfl
    refine ⟨⟨.owed (by rw [complete]) pending, inv.calm, fun _ => admitted.able,
      inv.nonce_size, inv.signature_size, ?_⟩, ?_⟩
    · intro sending
      cases sending
    · exact .accept type admitted (by rw [last]) rfl rfl ready rfl
  · have returns : setReply (submitIfDone p.noncePart) = .ret (.set true) := by
      simp only [submitIfDone, if_neg last, setReply, Prog.pure_eq, Prog.ret_bind]
    have still : (nonceAccepted s.authState p.nonceId p.noncePart).type = .receivingNonce := by
      simp only [nonceAccepted, if_neg last]
      split
      · exact type
      · exact type
    rw [returns]
    refine ⟨⟨.receiving still pending (.neutral (.finished _ _)), inv.calm, ?_, inv.nonce_size,
      inv.signature_size, ?_⟩, .accept type admitted rfl rfl rfl ready rfl⟩
    · intro other
      exact absurd still other
    · intro sending
      cases still.symm.trans sending

theorem step_submit {m : Machine} (inv : Inv env m)
    (calling : m.usb = setReply (submitIfDone 4)) (idle : m.worker = .ret ())
    (type : m.shared.authState.type = .waitingToSign) :
    SoundStep env m (m.step env .usb) (m.observe env .usb) := by
  obtain ⟨s, request, usb, worker⟩ := m
  simp only at calling idle type
  subst calling idle
  have silent : Machine.observe env ⟨s, request, setReply (submitIfDone 4), .ret ()⟩ .usb
      = .silent := by
    cases request <;> rfl
  rw [silent]
  exact ⟨⟨.queued type rfl (.finished _ _), inv.calm, inv.able, inv.nonce_size,
    inv.signature_size, inv.next_part⟩, .quiet rfl rfl rfl rfl Iff.rfl⟩

theorem step_get {m : Machine} (inv : Inv env m) {buf : List UInt8}
    (type : m.shared.authState.type = .sendingSignature)
    (asks : m.request.AsksChunk) (size : buf.length = 64)
    (calling : m.usb = chunkResult env m.shared.authState buf (getNextSignatureChunk env 56)) :
    SoundStep env m (m.step env .usb) (m.observe env .usb) := by
  obtain ⟨pending, _, idle, key, keyed, signature⟩ := inv.phase.of_sending type
  obtain ⟨s, req, usb, worker⟩ := m
  simp only at type asks calling pending idle signature
  subst calling idle
  obtain ⟨old, rfl, asked⟩ := asks
  have moved : Machine.step env ⟨s, .getFeatureReport 0xF1 old,
      chunkResult env s.authState buf (getNextSignatureChunk env 56), .ret ()⟩ .usb =
      ⟨s, .getFeatureReport 0xF1 old,
        chunkResult env s.authState buf (copyChunk env s.authState 56), .ret ()⟩ := by
    simp only [Machine.step, chunkResult, getReply, getNextSignatureChunk, ne_eq,
      not_true_eq_false, if_false, load_bind, Prog.op_bind, Prog.advance, exec, type]
  have silent : Machine.observe env ⟨s, .getFeatureReport 0xF1 old,
      chunkResult env s.authState buf (getNextSignatureChunk env 56), .ret ()⟩ .usb = .silent := by
    simp only [Machine.observe, moved]
    rfl
  rw [moved, silent]
  exact ⟨⟨.sending type pending keyed signature (.copy ⟨old, rfl, asked⟩ size), inv.calm, inv.able,
    inv.nonce_size, inv.signature_size, inv.next_part⟩, .quiet rfl rfl rfl rfl Iff.rfl⟩

theorem Inv.window {m : Machine} (inv : Inv env m)
    (type : m.shared.authState.type = .sendingSignature) :
    m.shared.authState.nextPart.toNat * 56 + 56 ≤ 1064 := part_window (inv.next_part type)

theorem step_copy {m : Machine} (inv : Inv env m) {buf : List UInt8}
    (type : m.shared.authState.type = .sendingSignature)
    (asks : m.request.AsksChunk) (size : buf.length = 64)
    (calling : m.usb = chunkResult env m.shared.authState buf (copyChunk env m.shared.authState 56)) :
    SoundStep env m (m.step env .usb) (m.observe env .usb) := by
  obtain ⟨pending, _, idle, key, keyed, signature⟩ := inv.phase.of_sending type
  have window := inv.window type
  obtain ⟨s, req, usb, worker⟩ := m
  simp only at type asks calling pending idle signature window
  subst calling idle
  obtain ⟨old, rfl, asked⟩ := asks
  have copied : copySignature key s.nonceSignature 56 (s.authState.nextPart.toNat * 56) =
      some (slice (signatureBlob key s.nonceSignature) (s.authState.nextPart.toNat * 56) 56) :=
    copySignature_window inv.signature_size window
  have moved : Machine.step env ⟨s, .getFeatureReport 0xF1 old,
      chunkResult env s.authState buf (copyChunk env s.authState 56), .ret ()⟩ .usb =
      ⟨s, .getFeatureReport 0xF1 old, chunkResult env s.authState buf (advanceChunk s.authState
        (slice (signatureBlob key s.nonceSignature) (s.authState.nextPart.toNat * 56) 56)),
        .ret ()⟩ := by
    simp only [Machine.step, chunkResult, getReply, copyChunk, readSignature_bind, Prog.op_bind,
      Prog.advance, exec, keyed, Option.bind_some, copied]
  have silent : Machine.observe env ⟨s, .getFeatureReport 0xF1 old,
      chunkResult env s.authState buf (copyChunk env s.authState 56), .ret ()⟩ .usb = .silent := by
    simp only [Machine.observe, moved]
    rfl
  rw [moved, silent]
  exact ⟨⟨.sending type pending keyed signature (.advance ⟨old, rfl, asked⟩ size keyed), inv.calm,
    inv.able, inv.nonce_size, inv.signature_size, inv.next_part⟩, .quiet rfl rfl rfl accepting_advance Iff.rfl⟩

/-- A chunk of 56 bytes and its header leave just the room for the CRC. -/
theorem sendChunk_reply (env : Env) (state : AuthState) {buf chunk : List UInt8}
    (size : buf.length = 64) (length : chunk.length = 56) :
    sendChunk env state buf (some chunk) = (64, chunkReport env state chunk) := by
  have sized : (chunkData state chunk).length = 60 := by
    simp only [chunkData, List.length_append, length, List.length_cons, List.length_nil]
  rw [sendChunk, writeWithCrc_exact (by rw [sized, size]), sized]
  rfl

theorem nextPart_lt {part : UInt8} (bound : part < 19) (more : part + 1 ≠ 19) : part + 1 < 19 := by
  have small := UInt8.lt_iff_toNat_lt.mp bound
  have other : part.toNat + 1 ≠ 19 := by
    intro same
    refine more (UInt8.toNat_inj.mp ?_)
    rw [UInt8.toNat_add]
    simp only [UInt8.reduceToNat]
    omega
  apply UInt8.lt_iff_toNat_lt.mpr
  simp only [UInt8.toNat_add, UInt8.reduceToNat] at small ⊢
  omega

theorem step_advance {m : Machine} (inv : Inv env m) {buf : List UInt8} {key : PS4Key}
    (type : m.shared.authState.type = .sendingSignature)
    (asks : m.request.AsksChunk) (size : buf.length = 64)
    (keyed : env.ps4Key = some key)
    (calling : m.usb = chunkResult env m.shared.authState buf (advanceChunk m.shared.authState
      (slice (signatureBlob key m.shared.nonceSignature)
        (m.shared.authState.nextPart.toNat * 56) 56))) :
    SoundStep env m (m.step env .usb) (m.observe env .usb) := by
  obtain ⟨pending, _, idle, key', keyed', signature⟩ := inv.phase.of_sending type
  obtain rfl : key = key' := Option.some.inj (keyed.symm.trans keyed')
  have window := inv.window type
  have bound := inv.next_part type
  obtain ⟨s, req, usb, worker⟩ := m
  simp only at type asks calling pending idle signature window bound
  subst calling idle
  obtain ⟨old, rfl, asked⟩ := asks
  generalize part : slice (signatureBlob key s.nonceSignature)
    (s.authState.nextPart.toNat * 56) 56 = chunk
  have length : chunk.length = 56 := by
    rw [← part]
    exact length_window inv.signature_size window
  have reply := sendChunk_reply env s.authState size length
  have moved : Machine.step env ⟨s, .getFeatureReport 0xF1 old,
      chunkResult env s.authState buf (advanceChunk s.authState chunk), .ret ()⟩ .usb =
      ⟨{ s with authState := chunkSent s.authState }, .getFeatureReport 0xF1 old,
        .ret (.get 64 (chunkReport env s.authState chunk)), .ret ()⟩ := by
    simp only [Machine.step, chunkResult, getReply, advanceChunk, cas_bind, Prog.op_bind,
      Prog.advance, exec, if_true, Prog.pure_eq, Prog.ret_bind, reply]
  have waiting : Machine.accepting ⟨s, .getFeatureReport 0xF1 old,
      chunkResult env s.authState buf (advanceChunk s.authState chunk), .ret ()⟩ = none :=
    accepting_advance
  have seen : Machine.observe env ⟨s, .getFeatureReport 0xF1 old,
      chunkResult env s.authState buf (advanceChunk s.authState chunk), .ret ()⟩ .usb =
      .chunk (chunkReport env s.authState chunk) := by
    simp only [Machine.observe, waiting, moved]
    rfl
  rw [moved, seen, ← part]
  refine ⟨?_, .sendChunk type rfl rfl rfl keyed ⟨old, rfl, asked⟩ (by rw [part]; exact waiting) rfl⟩
  by_cases last : s.authState.nextPart + 1 = 19
  · have done : (chunkSent s.authState).type = .receivingNonce := by
      simp only [chunkSent, if_pos last]
    refine ⟨.receiving done pending (.neutral (.finished _ _)), inv.calm, ?_, inv.nonce_size,
      inv.signature_size, ?_⟩
    · intro other
      exact absurd done other
    · intro sending
      cases done.symm.trans sending
  · have more : chunkSent s.authState = { s.authState with nextPart := s.authState.nextPart + 1 } := by
      simp only [chunkSent, if_neg last]
    refine ⟨.sending (by rw [more]; exact type) pending keyed signature (.neutral (.finished _ _)),
      inv.calm, ?_, inv.nonce_size, inv.signature_size, ?_⟩
    · intro _
      exact inv.able (by rw [type]; decide)
    · intro _
      rw [more]
      exact nextPart_lt bound last

theorem step_usb {m : Machine} (inv : Inv env m) :
    SoundStep env m (m.step env .usb) (m.observe env .usb) := by
  by_cases neutral : Neutral env m.request m.usb
  · exact step_neutral inv neutral
  · have phase := inv.phase
    generalize program : m.usb = usb at phase neutral
    generalize m.worker = worker at phase
    cases phase with
    | receiving type _ calling =>
        cases calling with
        | neutral is => exact absurd is neutral
        | store admitted => exact step_store inv type admitted program
        | commit admitted => exact step_commit inv type admitted program
    | owed type _ => exact step_submit inv program (inv.idle_of_owed program) type
    | sending type _ _ _ calling =>
        cases calling with
        | neutral is => exact absurd is neutral
        | get request size => exact step_get inv type request size program
        | copy request size => exact step_copy inv type request size program
        | advance request size keyed => exact step_advance inv type request size keyed program
    | queued _ _ is | started _ _ is | loaded _ _ is | hashing _ _ is | hashed _ _ is
    | signed _ _ _ _ is | failed _ _ is => exact absurd is neutral

/-! ### The work item -/

section Worker
variable {m : Machine} (inv : Inv env m) (result : MbedResult)
include inv

theorem step_unqueued (pending : m.shared.workPending = false) (idle : m.worker = .ret ()) :
    SoundStep env m (m.step env (.worker result)) (m.observe env (.worker result)) := by
  have same : m.step env (.worker result) = m := by
    simp only [Machine.step, idle, pending, Bool.false_eq_true, if_false]
  have silent : m.observe env (.worker result) = .silent := by
    simp only [Machine.observe, idle]
  rw [same, silent]
  exact ⟨inv, .stay m⟩

theorem step_dequeue (type : m.shared.authState.type = .waitingToSign)
    (pending : m.shared.workPending = true) (neutral : Neutral env m.request m.usb)
    (idle : m.worker = .ret ()) :
    SoundStep env m (m.step env (.worker result)) (m.observe env (.worker result)) := by
  have moved : m.step env (.worker result) =
      { m with shared := { m.shared with workPending := false }, worker := signNonce env } := by
    simp only [Machine.step, idle, pending, if_true]
  have silent : m.observe env (.worker result) = .silent := by
    simp only [Machine.observe, idle]
  rw [moved, silent]
  refine ⟨⟨.started type rfl neutral, inv.calm, inv.able, inv.nonce_size, inv.signature_size,
    inv.next_part⟩, .quiet rfl rfl rfl rfl ?_⟩
  simp only [Machine.Stuck, type, reduceCtorEq, false_and]

theorem step_load (type : m.shared.authState.type = .waitingToSign)
    (pending : m.shared.workPending = false) (neutral : Neutral env m.request m.usb)
    (running : m.worker = signNonce env) :
    SoundStep env m (m.step env (.worker result)) (m.observe env (.worker result)) := by
  have moved : m.step env (.worker result) =
      { m with worker := beginSigning env m.shared.authState } := by
    simp only [Machine.step, running, signNonce, load_bind, Prog.advance, exec, type, ne_eq,
      not_true_eq_false, if_false]
  have silent : m.observe env (.worker result) = .silent := by
    simp only [Machine.observe, running, signNonce, load_bind]
  rw [moved, silent]
  refine ⟨⟨.loaded type pending neutral, inv.calm, inv.able, inv.nonce_size,
    inv.signature_size, inv.next_part⟩, .quiet rfl rfl rfl rfl ?_⟩
  simp only [Machine.Stuck, type, reduceCtorEq, false_and]

theorem step_begin (type : m.shared.authState.type = .waitingToSign)
    (pending : m.shared.workPending = false) (neutral : Neutral env m.request m.usb)
    (running : m.worker = beginSigning env m.shared.authState) :
    SoundStep env m (m.step env (.worker result)) (m.observe env (.worker result)) := by
  have moved : m.step env (.worker result) =
      { m with
        shared := { m.shared with authState := { m.shared.authState with type := .signing } }
        worker := hashNonce env { m.shared.authState with type := .signing } } := by
    simp only [Machine.step, running, beginSigning, cas_bind, Prog.advance, exec, if_true]
  have silent : m.observe env (.worker result) = .silent := by
    simp only [Machine.observe, running, beginSigning, cas_bind]
  rw [moved, silent]
  refine ⟨⟨.hashing rfl pending neutral, inv.calm, ?_, inv.nonce_size, inv.signature_size, ?_⟩,
    .begin type rfl rfl rfl neutral.not_accepting (Neutral.not_accepting neutral) ?_⟩
  · intro _
    exact inv.able (by rw [type]; decide)
  · intro sending
    cases sending
  · intro stuck
    cases stuck.2

theorem step_hash (type : m.shared.authState.type = .signing)
    (pending : m.shared.workPending = false) (neutral : Neutral env m.request m.usb)
    (running : m.worker = hashNonce env m.shared.authState) :
    SoundStep env m (m.step env (.worker result)) (m.observe env (.worker result)) := by
  have seen : m.observe env (.worker result) = .result result.rc := by
    simp only [Machine.observe, running, hashNonce, sha256_bind]
  have unstuck : ¬ m.Stuck := by
    intro stuck
    cases running.symm.trans stuck.2
  rw [seen]
  by_cases good : result.error = 0
  · have moved : m.step env (.worker result) =
        { m with worker := signHash env m.shared.authState (env.sha256 m.shared.nonce) } := by
      simp only [Machine.step, running, hashNonce, sha256_bind, Prog.advance, exec, good, if_true,
        MbedResult.rc_eq_zero.mpr good, ne_eq, not_true_eq_false, if_false]
    obtain ⟨key, keyed⟩ := inv.key_of_busy (by rw [type]; decide)
    rw [moved]
    refine ⟨⟨.hashed type pending neutral, inv.calm, inv.able, inv.nonce_size,
      inv.signature_size, inv.next_part⟩, .mbedtls type rfl rfl neutral.not_accepting
        (Neutral.not_accepting neutral) unstuck ?_⟩
    refine ⟨?_, fun bad => absurd good bad⟩
    intro stuck
    have finished := stuck.2
    simp only [signHash, keyed] at finished
    cases finished
  · have moved : m.step env (.worker result) = { m with worker := .ret () } := by
      have nonzero : ¬ result.rc = 0 := fun zero => good (MbedResult.rc_eq_zero.mp zero)
      simp only [Machine.step, running, hashNonce, sha256_bind, Prog.advance, exec, ne_eq,
        nonzero, not_false_eq_true, if_true, Prog.pure_eq]
    rw [moved]
    exact ⟨⟨.failed type pending neutral, inv.calm, inv.able, inv.nonce_size,
      inv.signature_size, inv.next_part⟩, .mbedtls type rfl rfl neutral.not_accepting
        (Neutral.not_accepting neutral) unstuck ⟨fun _ => good, fun _ => ⟨type, rfl⟩⟩⟩

theorem step_sign (type : m.shared.authState.type = .signing)
    (pending : m.shared.workPending = false) (neutral : Neutral env m.request m.usb)
    (running : m.worker = signHash env m.shared.authState (env.sha256 m.shared.nonce)) :
    SoundStep env m (m.step env (.worker result)) (m.observe env (.worker result)) := by
  obtain ⟨key, keyed⟩ := inv.key_of_busy (by rw [type]; decide)
  have seen : m.observe env (.worker result) = .result result.rc := by
    simp only [Machine.observe, running, signHash, keyed, rsaSign_bind]
  have unstuck : ¬ m.Stuck := by
    intro stuck
    have impossible := running.symm.trans stuck.2
    simp only [signHash, keyed] at impossible
    cases impossible
  rw [seen]
  by_cases good : result.error = 0
  · have moved : m.step env (.worker result) =
        { m with
          shared := { m.shared with nonceSignature := signatureOf env key m.shared.nonce }
          worker := sendSignature m.shared.authState } := by
      have nonnegative : ¬ result.rc < 0 := fun negative => MbedResult.rc_neg.mp negative good
      simp only [Machine.step, running, signHash, keyed, rsaSign_bind, Prog.advance, exec, good,
        if_true, nonnegative, if_false, signatureOf]
    rw [moved]
    refine ⟨⟨.signed type pending keyed rfl neutral, inv.calm, inv.able, inv.nonce_size,
      env.rsaSign_size _ _, inv.next_part⟩, .mbedtls type rfl rfl neutral.not_accepting
        (Neutral.not_accepting neutral) unstuck ⟨?_, fun bad => absurd good bad⟩⟩
    intro stuck
    cases stuck.2
  · have moved : m.step env (.worker result) =
        { m with
          shared := { m.shared with nonceSignature := result.spill }
          worker := .ret () } := by
      simp only [Machine.step, running, signHash, keyed, rsaSign_bind, Prog.advance, exec, good,
        if_false, MbedResult.rc_neg.mpr good, if_true, Prog.pure_eq]
    rw [moved]
    exact ⟨⟨.failed type pending neutral, inv.calm, inv.able, inv.nonce_size,
      result.spill_size, inv.next_part⟩, .mbedtls type rfl rfl neutral.not_accepting
        (Neutral.not_accepting neutral) unstuck ⟨fun _ => good, fun _ => ⟨type, rfl⟩⟩⟩

theorem step_send {key : PS4Key} (type : m.shared.authState.type = .signing)
    (pending : m.shared.workPending = false) (keyed : env.ps4Key = some key)
    (signature : m.shared.nonceSignature = signatureOf env key m.shared.nonce)
    (neutral : Neutral env m.request m.usb) (running : m.worker = sendSignature m.shared.authState) :
    SoundStep env m (m.step env (.worker result)) (m.observe env (.worker result)) := by
  have moved : m.step env (.worker result) =
      { m with
        shared := { m.shared with
          authState := { m.shared.authState with type := .sendingSignature, nextPart := 0 } }
        worker := .ret () } := by
    simp only [Machine.step, running, sendSignature, cas_bind, Prog.advance, exec, if_true,
      Prog.pure_eq]
  have silent : m.observe env (.worker result) = .silent := by
    simp only [Machine.observe, running, sendSignature, cas_bind]
  have unstuck : ¬ m.Stuck := by
    intro stuck
    cases running.symm.trans stuck.2
  rw [moved, silent]
  refine ⟨⟨.sending rfl pending keyed signature (.neutral neutral), inv.calm, ?_, inv.nonce_size,
    inv.signature_size, ?_⟩, .send type rfl rfl rfl keyed signature neutral.not_accepting
      (Neutral.not_accepting neutral) unstuck⟩
  · intro _
    exact inv.able (by rw [type]; decide)
  · intro _
    change (0 : UInt8) < 19
    decide

theorem step_worker :
    SoundStep env m (m.step env (.worker result)) (m.observe env (.worker result)) := by
  have phase := inv.phase
  generalize program : m.worker = worker at phase
  generalize calling : m.usb = usb at phase
  cases phase with
  | receiving _ pending _ | owed _ pending | sending _ pending _ _ _ | failed _ pending _ =>
      exact step_unqueued inv result pending program
  | queued type pending neutral => exact step_dequeue inv result type pending (calling ▸ neutral) program
  | started type pending neutral => exact step_load inv result type pending (calling ▸ neutral) program
  | loaded type pending neutral => exact step_begin inv result type pending (calling ▸ neutral) program
  | hashing type pending neutral => exact step_hash inv result type pending (calling ▸ neutral) program
  | hashed type pending neutral => exact step_sign inv result type pending (calling ▸ neutral) program
  | signed type pending keyed signature neutral =>
      exact step_send inv result type pending keyed signature (calling ▸ neutral) program

end Worker

/-- Every step keeps the invariant and has one of the listed effects. -/
theorem step_effect {m : Machine} (inv : Inv env m) (e : Event) :
    SoundStep env m (m.step env e) (m.observe env e) := by
  cases e with
  | request req => exact step_request inv req
  | usb => exact step_usb inv
  | worker result => exact step_worker inv result

theorem boot_inv (env : Env) : Inv env Machine.boot where
  phase := .receiving rfl rfl (.neutral (.finished _ _))
  calm := rfl
  able := by
    intro other
    exact absurd rfl other
  nonce_size := List.length_replicate
  signature_size := List.length_replicate
  next_part := by
    intro sending
    cases sending

end PassingLink.Ps4
