import PassingLink.Ps4.Phase

/-! Runs of the interleaved machine from boot, together with what an observer has
recorded of them. The record never influences the machine. -/
namespace PassingLink.Ps4
open Lib Auth

/-- `accepted`: the packets accepted since the last accepted part 0, newest first.
`signedNonce`, `signedId`: the buffer and the id when `WaitingToSign` was last entered.
`replies`: the successful replies to report 0xF1 since `SendingSignature` was last
entered. `codes`: what the mbedTLS calls have returned. -/
structure History where
  accepted : List NoncePacket
  signedNonce : List UInt8
  signedId : UInt8
  replies : List (List UInt8)
  codes : List Int

def sincePartZero (p : NoncePacket) (accepted : List NoncePacket) : List NoncePacket :=
  if p.noncePart = 0 then [p] else p :: accepted

def Entered (t : AuthStateType) (m m' : Machine) : Prop :=
  m.shared.authState.type ≠ t ∧ m'.shared.authState.type = t

instance (t : AuthStateType) (m m' : Machine) : Decidable (Entered t m m') :=
  inferInstanceAs (Decidable (_ ∧ _))

def History.record (h : History) (m m' : Machine) (seen : Observation) : History where
  accepted :=
    match seen with
    | .accepted p => sincePartZero p h.accepted
    | _ => h.accepted
  signedNonce := if Entered .waitingToSign m m' then m'.shared.nonce else h.signedNonce
  signedId := if Entered .waitingToSign m m' then m'.shared.authState.nonceId else h.signedId
  replies :=
    if Entered .sendingSignature m m' then []
    else
      match seen with
      | .chunk buf => h.replies ++ [buf]
      | _ => h.replies
  codes :=
    match seen with
    | .result rc => h.codes ++ [rc]
    | _ => h.codes

structure System where
  machine : Machine
  history : History

def System.boot : System where
  machine := Machine.boot
  history := ⟨[], [], 0, [], []⟩

def System.step (env : Env) (sys : System) (e : Event) : System where
  machine := sys.machine.step env e
  history :=
    sys.history.record sys.machine (sys.machine.step env e) (sys.machine.observe env e)

def reach (env : Env) (es : List Event) : System := run (System.step env) System.boot es

theorem run_machine (env : Env) (sys : System) (es : List Event) :
    (run (System.step env) sys es).machine = run (Machine.step env) sys.machine es :=
  run_forget System.machine (fun _ _ => rfl) sys es

variable {env : Env}

theorem run_inv {m : Machine} (inv : Inv env m) (es : List Event) :
    Inv env (run (Machine.step env) m es) := by
  have preserved (m : Machine) (e : Event) (inv : Inv env m) : Inv env (m.step env e) :=
    (step_effect inv e).inv
  exact run_invariant preserved inv es

theorem reach_inv (env : Env) (es : List Event) : Inv env (reach env es).machine := by
  rw [reach, run_machine]
  exact run_inv (boot_inv env) es

/-- What every step from a state with the invariant preserves holds in every run. -/
theorem reach_of_step {P : System → Prop} (initial : P System.boot)
    (preserved : ∀ sys e, Inv env sys.machine → P sys → P (sys.step env e)) (es : List Event) :
    P (reach env es) := by
  have both (sys : System) (e : Event) (holds : Inv env sys.machine ∧ P sys) :
      Inv env (sys.step env e).machine ∧ P (sys.step env e) :=
    ⟨(step_effect holds.1 e).inv, preserved sys e holds.1 holds.2⟩
  exact (run_invariant both ⟨boot_inv env, initial⟩ es).2

/-! ### The signed nonce -/

/-- While a nonce waits, is signed or has its signature read, the record of it agrees with
the memory. -/
def SignedNonce (sys : System) : Prop :=
  sys.machine.shared.authState.type ≠ .receivingNonce →
    sys.history.signedNonce = sys.machine.shared.nonce ∧
      sys.history.signedId = sys.machine.shared.authState.nonceId

theorem nonceAccepted_last (s : AuthState) (nonceId : UInt8) :
    nonceAccepted s nonceId 4 = { s with type := .waitingToSign } := rfl

theorem nonceAccepted_type {s : AuthState} {nonceId noncePart : UInt8} (other : noncePart ≠ 4) :
    (nonceAccepted s nonceId noncePart).type = s.type := by
  simp only [nonceAccepted, if_neg other]
  split <;> rfl

@[simp] theorem chunkSent_nonceId (s : AuthState) : (chunkSent s).nonceId = s.nonceId := by
  unfold chunkSent
  split <;> rfl

theorem chunkSent_type (s : AuthState) :
    (chunkSent s).type = s.type ∨ (chunkSent s).type = .receivingNonce := by
  unfold chunkSent
  split
  · exact Or.inr rfl
  · exact Or.inl rfl

theorem Effect.entered_waiting {m m' : Machine} {seen : Observation}
    (effect : Effect env m m' seen) (entered : Entered .waitingToSign m m') :
    ∃ p, seen = .accepted p ∧ p.noncePart = 4 := by
  obtain ⟨before, after⟩ := entered
  cases effect with
  | quiet auth | store _ _ auth | mbedtls _ auth =>
      rw [auth] at after
      exact absurd after before
  | @accept p type _ auth =>
      by_cases last : p.noncePart = 4
      · exact ⟨p, rfl, last⟩
      · rw [auth, nonceAccepted_type last] at after
        exact absurd after before
  | begin _ auth | send _ auth =>
      rw [auth] at after
      cases after
  | sendChunk type auth =>
      rw [auth] at after
      rcases chunkSent_type m.shared.authState with same | done
      · exact absurd (same.symm.trans after) before
      · cases done.symm.trans after

theorem Effect.busy {m m' : Machine} {seen : Observation} (effect : Effect env m m' seen)
    (busy : m'.shared.authState.type ≠ .receivingNonce) :
    Entered .waitingToSign m m' ∨
      m.shared.authState.type ≠ .receivingNonce ∧ m'.shared.nonce = m.shared.nonce ∧
        m'.shared.authState.nonceId = m.shared.authState.nonceId := by
  cases effect with
  | quiet auth nonce =>
      rw [auth] at busy ⊢
      exact Or.inr ⟨busy, nonce, rfl⟩
  | store type _ auth =>
      rw [auth] at busy
      exact absurd type busy
  | @accept p type _ auth =>
      by_cases last : p.noncePart = 4
      · refine Or.inl ⟨by rw [type]; decide, ?_⟩
        rw [auth, last, nonceAccepted_last]
      · rw [auth, nonceAccepted_type last] at busy
        exact absurd type busy
  | begin type auth nonce =>
      rw [auth]
      exact Or.inr ⟨by rw [type]; decide, nonce, rfl⟩
  | mbedtls type auth nonce =>
      rw [auth]
      exact Or.inr ⟨by rw [type]; decide, nonce, rfl⟩
  | send type auth nonce =>
      rw [auth]
      exact Or.inr ⟨by rw [type]; decide, nonce, rfl⟩
  | sendChunk type auth nonce =>
      rw [auth, chunkSent_nonceId]
      exact Or.inr ⟨by rw [type]; decide, nonce, rfl⟩

theorem signedNonce_step {sys : System} (inv : Inv env sys.machine) (signed : SignedNonce sys)
    (e : Event) : SignedNonce (sys.step env e) := by
  have effect := (step_effect inv e).effect
  intro busy
  simp only [System.step, History.record] at busy ⊢
  rcases effect.busy busy with entered | ⟨before, nonce, id⟩
  · rw [if_pos entered, if_pos entered]
    exact ⟨rfl, rfl⟩
  · by_cases entered : Entered .waitingToSign sys.machine (sys.machine.step env e)
    · rw [if_pos entered, if_pos entered]
      exact ⟨rfl, rfl⟩
    · rw [if_neg entered, if_neg entered, nonce, id]
      exact signed before

theorem reach_signedNonce (env : Env) (es : List Event) : SignedNonce (reach env es) := by
  have initial : SignedNonce System.boot := by
    intro busy
    exact absurd rfl busy
  apply reach_of_step initial
  intro sys e inv signed
  exact signedNonce_step inv signed e

/-! ### A device for runs on concrete packets -/

def exampleKey : PS4Key where
  serial := List.replicate 16 0
  signature := List.replicate 256 0xFF
  rsaN := 0
  rsaE := 0
  serial_size := List.length_replicate
  signature_size := List.length_replicate
  rsaN_size := Nat.pow_pos (by decide)
  rsaE_size := Nat.pow_pos (by decide)

/-- CRC-32 of the 60 bytes before the CRC of a nonce report whose payload is all zeros,
for the ids and parts that the runs use. -/
def zeroPayloadCrc (nonceId noncePart : UInt8) : UInt32 :=
  if nonceId = 0 then 0x6C8A007C
  else if noncePart = 0 then 0xF5AB3D80
  else if noncePart = 1 then 0xBF6C3213
  else if noncePart = 2 then 0x602522A6
  else if noncePart = 3 then 0x2AE22D35
  else 0x05C6058D

def exampleEnv : Env where
  ps4Auth := true
  provisioningData := some ⟨some exampleKey⟩
  sha256 := fun _ => List.replicate 32 0
  rsaSign := fun _ _ => List.replicate 256 0
  rsaSign_size := fun _ _ => List.length_replicate
  crc32Ieee := fun data => zeroPayloadCrc (data.getD 1 0) (data.getD 2 0)

/-- The nonce report with the given id and part whose payload is all zeros. -/
def zeroPacket (nonceId noncePart : UInt8) : Request :=
  .setReport (some .feature) 0xF0
    ([0xF0, nonceId, noncePart, 0] ++ List.replicate 56 0 ++
      crcBytes (zeroPayloadCrc nonceId noncePart))

end PassingLink.Ps4
