import PassingLink.Ps4.History

/-! The signing of a nonce is not disturbed by what the host sends meanwhile. -/
namespace PassingLink.Ps4
open Lib Auth

variable {env : Env}

/-! ### Every compare-and-swap succeeds -/

/-- A compare-and-swap that is the next operation of a program finds what it expects. -/
def SwapsSucceed {α : Type} (s : Shared) (p : Auth α) : Prop :=
  ∀ expected newValue next, p = .op (.cas expected newValue) next →
    s.authState.toInt = expected.toInt

theorem swaps_none {α : Type} {s : Shared} {p : Auth α}
    (other : ∀ expected newValue next, p ≠ .op (.cas expected newValue) next) :
    SwapsSucceed s p :=
  fun expected newValue next is => absurd is (other expected newValue next)

theorem Neutral.swaps_succeed {s : Shared} {request : Request} {usb : Auth Reply}
    (neutral : Neutral env request usb) : SwapsSucceed s usb := by
  apply swaps_none
  intro expected newValue next is
  rcases neutral.ready with ⟨reply, finished⟩ | ready
  · cases finished.symm.trans is
  · rw [is] at ready
    cases ready

theorem ReceivingUsb.swaps_succeed {s : Shared} {request : Request} {usb : Auth Reply}
    (calling : ReceivingUsb env s request usb) : SwapsSucceed s usb := by
  cases calling with
  | neutral neutral => exact neutral.swaps_succeed
  | store => exact swaps_none (by intro _ _ _ is; cases is)
  | commit =>
      intro expected newValue next is
      simp only [setReply, commitNonce, cas_bind, Prog.op_bind, Prog.op.injEq, Op.cas.injEq] at is
      rw [is.1.1]

theorem SendingUsb.swaps_succeed {s : Shared} {request : Request} {usb : Auth Reply}
    (calling : SendingUsb env s request usb) : SwapsSucceed s usb := by
  cases calling with
  | neutral neutral => exact neutral.swaps_succeed
  | get => exact swaps_none (by intro _ _ _ is; cases is)
  | copy => exact swaps_none (by intro _ _ _ is; cases is)
  | advance =>
      intro expected newValue next is
      simp only [chunkResult, getReply, advanceChunk, cas_bind, Prog.op_bind, Prog.op.injEq,
        Op.cas.injEq] at is
      rw [is.1.1]

theorem Phase.swaps_succeed {s : Shared} {request : Request} {usb : Auth Reply}
    {worker : Auth Unit} (phase : Phase env s request usb worker) :
    SwapsSucceed s usb ∧ SwapsSucceed s worker := by
  have idle : SwapsSucceed s (.ret () : Auth Unit) := swaps_none (by intro _ _ _ is; cases is)
  cases phase with
  | receiving _ _ calling => exact ⟨calling.swaps_succeed, idle⟩
  | owed => exact ⟨swaps_none (by intro _ _ _ is; cases is), idle⟩
  | queued _ _ neutral | failed _ _ neutral => exact ⟨neutral.swaps_succeed, idle⟩
  | started _ _ neutral | hashing _ _ neutral =>
      exact ⟨neutral.swaps_succeed, swaps_none (by intro _ _ _ is; cases is)⟩
  | loaded _ _ neutral =>
      refine ⟨neutral.swaps_succeed, ?_⟩
      intro expected newValue next is
      simp only [beginSigning, cas_bind, Prog.op.injEq, Op.cas.injEq] at is
      rw [is.1.1]
  | hashed _ _ neutral =>
      refine ⟨neutral.swaps_succeed, swaps_none fun _ _ _ is => ?_⟩
      unfold signHash at is
      split at is <;> cases is
  | signed _ _ _ _ neutral =>
      refine ⟨neutral.swaps_succeed, ?_⟩
      intro expected newValue next is
      simp only [sendSignature, cas_bind, Prog.op.injEq, Op.cas.injEq] at is
      rw [is.1.1]
  | sending _ _ _ _ calling => exact ⟨calling.swaps_succeed, idle⟩

/-! ### The buffers -/

/-- The work item owns the nonce from `WaitingToSign` on. -/
theorem Effect.nonce_kept {m m' : Machine} {seen : Observation} (effect : Effect env m m' seen)
    (busy : m.shared.authState.type ≠ .receivingNonce) : m'.shared.nonce = m.shared.nonce := by
  cases effect with
  | quiet _ nonce | begin _ _ nonce | mbedtls _ _ nonce | send _ _ nonce | sendChunk _ _ nonce =>
      exact nonce
  | store type | accept type => exact absurd type busy

theorem Effect.signature_kept {m m' : Machine} {seen : Observation}
    (effect : Effect env m m' seen) (other : m.shared.authState.type ≠ .signing) :
    m'.shared.nonceSignature = m.shared.nonceSignature := by
  cases effect with
  | quiet _ _ signature | store _ _ _ _ signature | accept _ _ _ _ signature
  | begin _ _ _ signature | send _ _ _ signature | sendChunk _ _ _ signature => exact signature
  | mbedtls type => exact absurd type other

/-- What signing relies on in a state of a run, whichever side moves next. -/
structure Undisturbed (env : Env) (sys : System) : Prop where
  nonce_kept : ∀ e, sys.machine.shared.authState.type = .waitingToSign ∨
    sys.machine.shared.authState.type = .signing →
    (sys.step env e).machine.shared.nonce = sys.machine.shared.nonce
  signature : sys.machine.shared.authState.type = .sendingSignature →
    ∃ key, env.ps4Key = some key ∧
      sys.machine.shared.nonceSignature = signatureOf env key sys.history.signedNonce
  signature_kept : ∀ e, sys.machine.shared.authState.type = .sendingSignature →
    (sys.step env e).machine.shared.nonceSignature = sys.machine.shared.nonceSignature
  usb_swaps : SwapsSucceed sys.machine.shared sys.machine.usb
  worker_swaps : SwapsSucceed sys.machine.shared sys.machine.worker

theorem signing_undisturbed (env : Env) (es : List Event) : Undisturbed env (reach env es) := by
  have inv := reach_inv env es
  have signed := reach_signedNonce env es
  generalize reach env es = sys at inv signed
  refine ⟨?_, ?_, ?_, inv.phase.swaps_succeed.1, inv.phase.swaps_succeed.2⟩
  · intro e busy
    apply (step_effect inv e).effect.nonce_kept
    rcases busy with type | type
    · rw [type]
      decide
    · rw [type]
      decide
  · intro type
    obtain ⟨-, -, -, key, keyed, signature⟩ := inv.phase.of_sending type
    obtain ⟨nonce, -⟩ := signed (by rw [type]; decide)
    exact ⟨key, keyed, by rw [nonce]; exact signature⟩
  · intro e type
    exact (step_effect inv e).effect.signature_kept (by rw [type]; decide)

end PassingLink.Ps4
