import PassingLink.Ps4.Serial

/-! When authentication can still get back to `ReceivingNonce`. -/
namespace PassingLink.Ps4
open Lib Auth

variable {env : Env}

/-! ### A failed mbedTLS call is the only way into the stuck state, and there is no way out -/

theorem Machine.not_stuck_of_type {m : Machine} (other : m.shared.authState.type ≠ .signing) :
    ¬ m.Stuck :=
  fun stuck => other stuck.1

theorem Effect.stuck_iff {m m' : Machine} {seen : Observation} (effect : Effect env m m' seen) :
    m'.Stuck ↔ m.Stuck ∨ ∃ rc, seen = .result rc ∧ rc ≠ 0 := by
  cases effect with
  | quiet _ _ _ _ same => simp only [same, reduceCtorEq, false_and, exists_false, or_false]
  | store type _ auth =>
      have before : ¬ m.Stuck := Machine.not_stuck_of_type (by rw [type]; decide)
      have later : ¬ m'.Stuck := Machine.not_stuck_of_type (by rw [auth, type]; decide)
      simp only [before, later, reduceCtorEq, false_and, exists_false, or_false]
  | @accept p type _ auth =>
      have before : ¬ m.Stuck := Machine.not_stuck_of_type (by rw [type]; decide)
      have later : ¬ m'.Stuck := by
        apply Machine.not_stuck_of_type
        by_cases last : p.noncePart = 4
        · rw [auth, last, nonceAccepted_last]
          intro same
          cases same
        · rw [auth, nonceAccepted_type last, type]
          decide
      simp only [before, later, reduceCtorEq, false_and, exists_false, or_false]
  | begin type _ _ _ _ _ later =>
      have before : ¬ m.Stuck := Machine.not_stuck_of_type (by rw [type]; decide)
      simp only [before, later, reduceCtorEq, false_and, exists_false, or_false]
  | @mbedtls result _ _ _ _ _ before later =>
      have failed : result.rc ≠ 0 ↔ result.error ≠ 0 := not_congr MbedResult.rc_eq_zero
      simp only [before, later, false_or, Observation.result.injEq, exists_eq_left', failed]
  | send _ auth _ _ _ _ _ _ before =>
      have later : ¬ m'.Stuck := Machine.not_stuck_of_type (by rw [auth]; simp)
      simp only [before, later, reduceCtorEq, false_and, exists_false, or_false]
  | sendChunk type auth =>
      have before : ¬ m.Stuck := Machine.not_stuck_of_type (by rw [type]; decide)
      have later : ¬ m'.Stuck := by
        apply Machine.not_stuck_of_type
        rcases chunkSent_type m.shared.authState with same | done
        · rw [auth, same, type]
          decide
        · rw [auth, done]
          decide
      simp only [before, later, reduceCtorEq, false_and, exists_false, or_false]

theorem stuck_forever {m : Machine} (inv : Inv env m) (stuck : m.Stuck) (es : List Event) :
    (run (Machine.step env) m es).Stuck := by
  have preserved (m : Machine) (e : Event) (both : Inv env m ∧ m.Stuck) :
      Inv env (m.step env e) ∧ (m.step env e).Stuck := by
    obtain ⟨inv', effect⟩ := step_effect both.1 e
    exact ⟨inv', effect.stuck_iff.mpr (Or.inl both.2)⟩
  exact (run_invariant preserved ⟨inv, stuck⟩ es).2

theorem mem_record_codes {h : History} {m m' : Machine} {seen : Observation} {c : Int} :
    c ∈ (h.record m m' seen).codes ↔ c ∈ h.codes ∨ seen = .result c := by
  cases seen with
  | result rc =>
      simp only [History.record, List.mem_append, List.mem_singleton, Observation.result.injEq,
        eq_comm]
  | silent | accepted | chunk => simp only [History.record, reduceCtorEq, or_false]

/-- The record of the return codes tells whether the machine is stuck. -/
def CodesTell (sys : System) : Prop :=
  sys.machine.Stuck ↔ ∃ c ∈ sys.history.codes, c ≠ 0

theorem codesTell_boot : CodesTell System.boot := by
  constructor
  · rintro ⟨type, -⟩
    cases type
  · rintro ⟨c, member, -⟩
    exact absurd member List.not_mem_nil

theorem codesTell_step {sys : System} (inv : Inv env sys.machine) (recorded : CodesTell sys)
    (e : Event) : CodesTell (sys.step env e) := by
  unfold CodesTell at recorded ⊢
  rw [System.step, (step_effect inv e).effect.stuck_iff, recorded]
  simp only [mem_record_codes, or_and_right, exists_or]

theorem reach_stuck_iff (env : Env) (es : List Event) :
    (reach env es).machine.Stuck ↔ ∃ c ∈ (reach env es).history.codes, c ≠ 0 := by
  apply reach_of_step codesTell_boot
  intro sys e inv recorded
  exact codesTell_step inv recorded e

/-! ### Every other state has a way back -/

def Returns (env : Env) (m : Machine) : Prop :=
  ∃ es, (run (Machine.step env) m es).shared.authState.type = .receivingNonce

theorem Returns.after {m : Machine} (es : List Event)
    (returns : Returns env (run (Machine.step env) m es)) : Returns env m := by
  obtain ⟨rest, returned⟩ := returns
  exact ⟨es ++ rest, by rw [run_append]; exact returned⟩

theorem chunk_taken {m : Machine} (inv : Inv env m)
    (type : m.shared.authState.type = .sendingSignature) {idle : Reply} (usb : m.usb = .ret idle) :
    ∃ es reply, (run (Machine.step env) m es).shared.authState = chunkSent m.shared.authState ∧
      (run (Machine.step env) m es).usb = .ret reply := by
  have able := inv.able (by rw [type]; decide)
  obtain ⟨key, keyed⟩ := Option.isSome_iff_exists.mp able.2
  have size : (List.replicate 64 (0 : UInt8)).length = 64 := List.length_replicate
  let asked : Request := .getFeatureReport 0xF1 (List.replicate 64 0)
  obtain ⟨n, finished⟩ := @usb_finishes env (m.step env (.request asked))
  have started : m.step env (.request asked) =
      { m with request := asked, usb := asked.program env } := by
    simp only [Machine.step, usb]
  have answered := chunk_request able.1 keyed type (inv.next_part type) inv.signature_size size
  refine ⟨.request asked :: List.replicate n .usb, ?_⟩
  rw [run_cons, finished, started]
  simp only [asked, answered]
  exact ⟨_, trivial, rfl⟩

/-- The signature is read chunk by chunk; the induction is on the chunks that are left. -/
theorem returns_of_sending (left : Nat) {m : Machine} (inv : Inv env m)
    (type : m.shared.authState.type = .sendingSignature) {idle : Reply} (usb : m.usb = .ret idle)
    (few : 19 ≤ m.shared.authState.nextPart.toNat + left) : Returns env m := by
  induction left generalizing m idle with
  | zero =>
      have bound := UInt8.lt_iff_toNat_lt.mp (inv.next_part type)
      exact absurd bound (by simp only [UInt8.reduceToNat]; omega)
  | succ left ih =>
      obtain ⟨es, reply, taken, usb'⟩ := chunk_taken inv type usb
      by_cases last : m.shared.authState.nextPart + 1 = 19
      · refine ⟨es, ?_⟩
        rw [taken, chunkSent, if_pos last]
      · rw [chunkSent, if_neg last] at taken
        refine .after es (ih (run_inv inv es) (by rw [taken]; exact type) usb' ?_)
        have bound := UInt8.lt_iff_toNat_lt.mp (inv.next_part type)
        rw [taken]
        simp only [UInt8.toNat_add, UInt8.reduceToNat] at bound ⊢
        omega

theorem returns_of_worker {m : Machine} (inv : Inv env m) {idle : Reply} (usb : m.usb = .ret idle)
    (sends : (after env m.worker m.shared).authState.type = .sendingSignature) :
    Returns env m := by
  obtain ⟨n, finished⟩ := @worker_finishes env m
  have inv' := run_inv inv (List.replicate n (.worker .success))
  refine .after (List.replicate n (.worker .success)) ?_
  rw [finished] at inv' ⊢
  exact returns_of_sending 19 inv' sends usb (by omega)

theorem returns_of_idle {m : Machine} (inv : Inv env m) (unstuck : ¬ m.Stuck) {idle : Reply}
    (usb : m.usb = .ret idle) : Returns env m := by
  have phase := inv.phase
  generalize program : m.worker = worker at phase
  generalize calling : m.usb = callback at phase
  cases phase with
  | receiving type => exact ⟨[], type⟩
  | owed => cases calling.symm.trans usb
  | queued type pending =>
      refine .after [.worker .success] (@returns_of_worker env _ (run_inv inv _) idle ?_ ?_)
      · simp only [run_cons, run_nil, Machine.step, program, pending, if_true, usb]
      · simp only [run_cons, run_nil, Machine.step, program, pending, if_true]
        exact signNonce_sends _ (inv.able (by rw [type]; decide)).2 type
  | started type =>
      apply returns_of_worker inv usb
      rw [program]
      exact signNonce_sends _ (inv.able (by rw [type]; decide)).2 type
  | loaded type =>
      apply returns_of_worker inv usb
      rw [program]
      exact beginSigning_sends _ (inv.able (by rw [type]; decide)).2
  | hashing type =>
      apply returns_of_worker inv usb
      rw [program]
      exact hashNonce_sends _ (inv.able (by rw [type]; decide)).2
  | hashed type =>
      apply returns_of_worker inv usb
      rw [program]
      exact signHash_sends _ (inv.able (by rw [type]; decide)).2 _
  | signed =>
      apply returns_of_worker inv usb
      rw [program]
      exact sendSignature_sends _
  | sending type => exact returns_of_sending 19 inv type usb (by omega)
  | failed type => exact absurd ⟨type, program⟩ unstuck

theorem observe_usb_result {m : Machine} {rc : Int} : m.observe env .usb ≠ .result rc := by
  intro seen
  simp only [Machine.observe] at seen
  split at seen
  · cases seen
  split at seen
  · split at seen <;> cases seen
  · cases seen

theorem unstuck_usb {m : Machine} (inv : Inv env m) (unstuck : ¬ m.Stuck) (n : Nat) :
    ¬ (run (Machine.step env) m (List.replicate n .usb)).Stuck := by
  induction n generalizing m with
  | zero => exact unstuck
  | succ n ih =>
      obtain ⟨inv', effect⟩ := step_effect inv .usb
      apply ih inv'
      intro stuck
      rcases effect.stuck_iff.mp stuck with before | ⟨rc, seen, -⟩
      · exact unstuck before
      · exact observe_usb_result seen

/-- The running callback is let finish first, then the work item, then the chunks are read. -/
theorem returns_of_unstuck {m : Machine} (inv : Inv env m) (unstuck : ¬ m.Stuck) :
    Returns env m := by
  obtain ⟨n, finished⟩ := @usb_finishes env m
  have idle := congrArg Machine.usb finished
  exact .after _ (returns_of_idle (run_inv inv _) (unstuck_usb inv unstuck n) idle)

/-- Some continuation brings `auth_state` back to `ReceivingNonce`, and the work item has
not returned with the state left in `Signing`. -/
structure Recovers (env : Env) (sys : System) : Prop where
  returns : ∃ es,
    (run (System.step env) sys es).machine.shared.authState.type = .receivingNonce
  not_left : sys.machine.worker = .ret () → sys.machine.shared.authState.type ≠ .signing

/-- `sign_nonce` returns without touching `auth_state` when an mbedTLS call fails, and
nothing else ever leaves `Signing`. -/
theorem recovers_iff (env : Env) (es : List Event) :
    Recovers env (reach env es) ↔ ∀ c ∈ (reach env es).history.codes, c = 0 := by
  have inv := reach_inv env es
  have clean : (∀ c ∈ (reach env es).history.codes, c = 0) ↔ ¬ (reach env es).machine.Stuck := by
    simp only [reach_stuck_iff, not_exists, not_and, Decidable.not_not]
  rw [clean]
  constructor
  · intro recovers stuck
    exact recovers.not_left stuck.2 stuck.1
  · intro unstuck
    obtain ⟨rest, returned⟩ := returns_of_unstuck inv unstuck
    refine ⟨⟨rest, by rw [run_machine]; exact returned⟩, ?_⟩
    intro worker type
    exact unstuck ⟨type, worker⟩

def failure : MbedResult := { MbedResult.success with error := 1 }

def zeroNonce : List Event :=
  [0, 1, 2, 3, 4].flatMap fun part => .request (zeroPacket 1 part) :: List.replicate 4 .usb

/-- A complete nonce is sent, and the SHA-256 call on it fails: the item has returned and
the state is still `Signing`. -/
theorem failed_hash_wedges :
    ¬ Recovers exampleEnv (reach exampleEnv (zeroNonce ++ List.replicate 4 (.worker failure))) := by
  intro recovers
  have stuck := (reach_stuck_iff exampleEnv
    (zeroNonce ++ List.replicate 4 (.worker failure))).mpr ⟨-1, by decide +kernel, by decide⟩
  exact recovers.not_left stuck.2 stuck.1

end PassingLink.Ps4
