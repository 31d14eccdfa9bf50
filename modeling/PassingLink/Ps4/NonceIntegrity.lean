import PassingLink.Ps4.History

/-! Which packets make up the nonce that is signed. -/
namespace PassingLink.Ps4
open Lib Auth

variable {env : Env}

def lastOf (accepted : List NoncePacket) (part : UInt8) : Option NoncePacket :=
  accepted.find? fun p => p.noncePart = part

/-- Every packet carries the id, and the last packet of each part is in the buffer. -/
structure Recorded (accepted : List NoncePacket) (nonceId : UInt8) (nonce : List UInt8) : Prop where
  ids : ∀ p ∈ accepted, p.nonceId = nonceId
  sizes : ∀ p ∈ accepted, p.payload.length = if p.noncePart = 4 then 32 else 56
  held : ∀ part p, lastOf accepted part = some p →
    slice nonce (part.toNat * 56) p.payload.length = p.payload

theorem lastOf_cons_self (p : NoncePacket) (accepted : List NoncePacket) :
    lastOf (p :: accepted) p.noncePart = some p := by
  simp only [lastOf, List.find?_cons, decide_true]

theorem lastOf_cons_other {p : NoncePacket} {part : UInt8} (other : p.noncePart ≠ part)
    (accepted : List NoncePacket) : lastOf (p :: accepted) part = lastOf accepted part := by
  simp only [lastOf, List.find?_cons, other, decide_false]

theorem lastOf_part {accepted : List NoncePacket} {part : UInt8} {p : NoncePacket}
    (last : lastOf accepted part = some p) : p ∈ accepted ∧ p.noncePart = part := by
  refine ⟨List.mem_of_find?_eq_some last, ?_⟩
  simpa only [decide_eq_true_eq] using List.find?_some last

theorem payload_le {p : NoncePacket}
    (size : p.payload.length = if p.noncePart = 4 then 32 else 56) : p.payload.length ≤ 56 := by
  rw [size]
  split <;> omega

theorem Recorded.slice_other {s : Shared} {request : Request} {p q : NoncePacket}
    (admitted : Admitted env s request p) (nonce_size : s.nonce.length = 256)
    (size : q.payload.length = if q.noncePart = 4 then 32 else 56)
    (other : p.noncePart ≠ q.noncePart) :
    slice (overwrite s.nonce (p.noncePart.toNat * 56) p.payload) (q.noncePart.toNat * 56)
      q.payload.length = slice s.nonce (q.noncePart.toNat * 56) q.payload.length := by
  have fits := admitted.fits
  have short := payload_le admitted.size
  have short' := payload_le size
  have apart : p.noncePart.toNat ≠ q.noncePart.toNat := fun same => other (UInt8.toNat_inj.mp same)
  by_cases before : q.noncePart.toNat < p.noncePart.toNat
  · exact slice_overwrite_before (by omega) (by omega)
  · exact slice_overwrite_after (by omega) (by omega)

theorem Recorded.store {s : Shared} {request : Request} {p : NoncePacket}
    {accepted : List NoncePacket} (admitted : Admitted env s request p)
    (nonce_size : s.nonce.length = 256)
    (recorded : Recorded accepted s.authState.nonceId s.nonce) :
    Recorded (sincePartZero p accepted) (nonceAccepted s.authState p.nonceId p.noncePart).nonceId
      (overwrite s.nonce (p.noncePart.toNat * 56) p.payload) := by
  have fits : p.noncePart.toNat * 56 ≤ s.nonce.length := by
    have := admitted.fits
    omega
  have copied := slice_overwrite_same p.payload fits
  by_cases first : p.noncePart = 0
  · have id : (nonceAccepted s.authState p.nonceId p.noncePart).nonceId = p.nonceId := by
      simp only [nonceAccepted, first, if_true]
      rfl
    rw [sincePartZero, if_pos first, id]
    refine ⟨?_, ?_, ?_⟩
    · intro q member
      rw [List.mem_singleton.mp member]
    · intro q member
      rw [List.mem_singleton.mp member]
      exact admitted.size
    · intro part q last
      obtain ⟨member, rfl⟩ := lastOf_part last
      rw [List.mem_singleton.mp member]
      exact copied
  · have id : (nonceAccepted s.authState p.nonceId p.noncePart).nonceId = s.authState.nonceId := by
      simp only [nonceAccepted, first, if_false]
      split <;> rfl
    rw [sincePartZero, if_neg first, id]
    refine ⟨?_, ?_, ?_⟩
    · intro q member
      rcases List.mem_cons.mp member with rfl | earlier
      · exact admitted.id first
      · exact recorded.ids q earlier
    · intro q member
      rcases List.mem_cons.mp member with rfl | earlier
      · exact admitted.size
      · exact recorded.sizes q earlier
    · intro part q last
      by_cases same : p.noncePart = part
      · subst same
        rw [lastOf_cons_self] at last
        obtain rfl := Option.some.inj last
        exact copied
      · rw [lastOf_cons_other same] at last
        obtain ⟨member, rfl⟩ := lastOf_part last
        rw [Recorded.slice_other admitted nonce_size (recorded.sizes q member) same]
        exact recorded.held _ q last

/-- What `Recorded` says between steps: a packet that is already in the buffer while its
compare-and-swap is still to come counts as accepted. -/
def NonceInv (sys : System) : Prop :=
  match sys.machine.accepting with
  | some p =>
      Recorded (sincePartZero p sys.history.accepted)
        (nonceAccepted sys.machine.shared.authState p.nonceId p.noncePart).nonceId
        sys.machine.shared.nonce
  | none =>
      Recorded sys.history.accepted sys.machine.shared.authState.nonceId
        sys.machine.shared.nonce

theorem NonceInv.of_idle {sys : System} (inv : NonceInv sys)
    (idle : sys.machine.accepting = none) :
    Recorded sys.history.accepted sys.machine.shared.authState.nonceId
      sys.machine.shared.nonce := by
  simpa only [NonceInv, idle] using inv

theorem NonceInv.of_accepting {sys : System} (inv : NonceInv sys) {p : NoncePacket}
    (ready : sys.machine.accepting = some p) :
    Recorded (sincePartZero p sys.history.accepted)
      (nonceAccepted sys.machine.shared.authState p.nonceId p.noncePart).nonceId
      sys.machine.shared.nonce := by
  simpa only [NonceInv, ready] using inv

theorem nonceInv_record {m m' : Machine} {h : History} {seen : Observation}
    (nonce_size : m.shared.nonce.length = 256) (inv : NonceInv ⟨m, h⟩)
    (effect : Effect env m m' seen) : NonceInv ⟨m', h.record m m' seen⟩ := by
  cases effect with
  | quiet auth nonce _ accepting =>
      simpa only [NonceInv, History.record, auth, nonce, accepting] using inv
  | @store p type admitted auth nonce _ idle ready =>
      simp only [NonceInv, ready, History.record, auth, nonce]
      exact .store admitted nonce_size (inv.of_idle idle)
  | accept type admitted auth nonce _ ready idle =>
      simp only [NonceInv, idle, History.record, auth, nonce]
      exact inv.of_accepting ready
  | begin _ auth nonce _ idle idle' =>
      simp only [NonceInv, idle', History.record, auth, nonce]
      exact inv.of_idle idle
  | mbedtls _ auth nonce idle idle' =>
      simp only [NonceInv, idle', History.record, auth, nonce]
      exact inv.of_idle idle
  | send _ auth nonce _ _ _ idle idle' =>
      simp only [NonceInv, idle', History.record, auth, nonce]
      exact inv.of_idle idle
  | sendChunk _ auth nonce _ _ _ idle idle' =>
      simp only [NonceInv, idle', History.record, auth, nonce, chunkSent_nonceId]
      exact inv.of_idle idle

def Tracked (env : Env) (sys : System) : Prop := Inv env sys.machine ∧ NonceInv sys

theorem tracked_step (sys : System) (e : Event) (tracked : Tracked env sys) :
    Tracked env (sys.step env e) :=
  ⟨(step_effect tracked.1 e).inv,
    nonceInv_record tracked.1.nonce_size tracked.2 (step_effect tracked.1 e).effect⟩

theorem tracked_boot (env : Env) : Tracked env System.boot := by
  refine ⟨boot_inv env, ?_, ?_, ?_⟩
  · intro p member
    exact absurd member List.not_mem_nil
  · intro p member
    exact absurd member List.not_mem_nil
  · intro part p last
    cases last

/-- The nonce buffer is the concatenation of the payloads of parts 0 to 4, each the last
packet of its part accepted since the last accepted part 0, and all carry the id in
`auth_state`. -/
def NonceIntact (sys : System) : Prop :=
  ∃ p₀ p₁ p₂ p₃ p₄,
    lastOf sys.history.accepted 0 = some p₀ ∧ lastOf sys.history.accepted 1 = some p₁ ∧
    lastOf sys.history.accepted 2 = some p₂ ∧ lastOf sys.history.accepted 3 = some p₃ ∧
    lastOf sys.history.accepted 4 = some p₄ ∧
    (∀ p ∈ [p₀, p₁, p₂, p₃, p₄], p.nonceId = sys.machine.shared.authState.nonceId) ∧
    sys.machine.shared.nonce =
      p₀.payload ++ p₁.payload ++ p₂.payload ++ p₃.payload ++ p₄.payload

def IntegrityStep (env : Env) (sys : System) (e : Event) : Prop :=
  Entered .waitingToSign sys.machine (sys.step env e).machine → NonceIntact (sys.step env e)

/-- If the callback is about to have part 4 of a nonce accepted, then parts 0, 1, 2 and 3
have been accepted since the last accepted part 0. -/
def PartsBefore (sys : System) (e : Event) : Prop :=
  ∀ p, e = .usb → sys.machine.accepting = some p → p.noncePart = 4 →
    ∀ part : UInt8, part < 4 → (lastOf sys.history.accepted part).isSome

theorem Recorded.segment {accepted : List NoncePacket} {nonceId : UInt8} {nonce : List UInt8}
    (recorded : Recorded accepted nonceId nonce) {part : UInt8} {p : NoncePacket}
    (last : lastOf accepted part = some p) :
    p.nonceId = nonceId ∧ p.payload = slice nonce (part.toNat * 56) (if part = 4 then 32 else 56) := by
  obtain ⟨member, rfl⟩ := lastOf_part last
  refine ⟨recorded.ids p member, ?_⟩
  rw [← recorded.sizes p member, recorded.held _ p last]

theorem Recorded.intact {sys : System} (nonce_size : sys.machine.shared.nonce.length = 256)
    (recorded : Recorded sys.history.accepted sys.machine.shared.authState.nonceId
      sys.machine.shared.nonce)
    (all : ∀ part : UInt8, part ≤ 4 → (lastOf sys.history.accepted part).isSome) :
    NonceIntact sys := by
  obtain ⟨p₀, h₀⟩ := Option.isSome_iff_exists.mp (all 0 (by decide))
  obtain ⟨p₁, h₁⟩ := Option.isSome_iff_exists.mp (all 1 (by decide))
  obtain ⟨p₂, h₂⟩ := Option.isSome_iff_exists.mp (all 2 (by decide))
  obtain ⟨p₃, h₃⟩ := Option.isSome_iff_exists.mp (all 3 (by decide))
  obtain ⟨p₄, h₄⟩ := Option.isSome_iff_exists.mp (all 4 (by decide))
  obtain ⟨i₀, s₀⟩ := recorded.segment h₀
  obtain ⟨i₁, s₁⟩ := recorded.segment h₁
  obtain ⟨i₂, s₂⟩ := recorded.segment h₂
  obtain ⟨i₃, s₃⟩ := recorded.segment h₃
  obtain ⟨i₄, s₄⟩ := recorded.segment h₄
  refine ⟨p₀, p₁, p₂, p₃, p₄, h₀, h₁, h₂, h₃, h₄, ?_, ?_⟩
  · simp only [List.mem_cons, List.not_mem_nil, or_false, forall_eq_or_imp, forall_eq, i₀, i₁, i₂,
      i₃, i₄, and_self]
  · have whole := slice_all sys.machine.shared.nonce
    rw [nonce_size, show 256 = 56 + 56 + 56 + 56 + 32 from rfl, slice_add, slice_add, slice_add,
      slice_add] at whole
    rw [s₀, s₁, s₂, s₃, s₄]
    exact whole.symm

theorem observe_accepted {m : Machine} {e : Event} {p : NoncePacket}
    (seen : m.observe env e = .accepted p) : e = .usb ∧ m.accepting = some p := by
  cases e with
  | request => cases seen
  | worker result =>
      simp only [Machine.observe] at seen
      split at seen <;> cases seen
  | usb =>
      refine ⟨rfl, ?_⟩
      simp only [Machine.observe] at seen
      split at seen
      · rename_i ready
        rw [ready, Observation.accepted.inj seen]
      · split at seen
        · split at seen <;> cases seen
        · cases seen

theorem accepting_last {sys : System} (inv : Inv env sys.machine) {p : NoncePacket}
    (ready : sys.machine.accepting = some p) (last : p.noncePart = 4) :
    Entered .waitingToSign sys.machine (sys.step env .usb).machine ∧
      (sys.step env .usb).history.accepted = p :: sys.history.accepted := by
  have seen : sys.machine.observe env .usb = .accepted p := by
    simp only [Machine.observe, ready]
  have effect := (step_effect inv .usb).effect
  simp only [System.step, History.record, seen] at effect ⊢
  cases effect with
  | accept type _ auth =>
      refine ⟨⟨by rw [type]; decide, by rw [auth, last, nonceAccepted_last]⟩, ?_⟩
      rw [sincePartZero, if_neg (by rw [last]; decide)]

theorem below_four {part : UInt8} (small : part < 4) :
    part = 0 ∨ part = 1 ∨ part = 2 ∨ part = 3 := by
  have bound : part.toNat < 4 := UInt8.lt_iff_toNat_lt.mp small
  simp only [← UInt8.toNat_inj, UInt8.reduceToNat]
  omega

theorem integrityStep_iff {sys : System} (tracked : Tracked env sys) (e : Event) :
    IntegrityStep env sys e ↔ PartsBefore sys e := by
  constructor
  · rintro intact p rfl ready last part small
    obtain ⟨entered, accepted⟩ := accepting_last tracked.1 ready last
    obtain ⟨p₀, p₁, p₂, p₃, -, h₀, h₁, h₂, h₃, -⟩ := intact entered
    have other : p.noncePart ≠ part := by
      rw [last]
      exact (UInt8.ne_of_lt small).symm
    rw [← lastOf_cons_other other, ← accepted]
    rcases below_four small with rfl | rfl | rfl | rfl
    · rw [h₀, Option.isSome_some]
    · rw [h₁, Option.isSome_some]
    · rw [h₂, Option.isSome_some]
    · rw [h₃, Option.isSome_some]
  · intro parts entered
    obtain ⟨p, seen, last⟩ := (step_effect tracked.1 e).effect.entered_waiting entered
    obtain ⟨rfl, ready⟩ := observe_accepted seen
    have after := tracked_step sys .usb tracked
    obtain ⟨-, accepted⟩ := accepting_last tracked.1 ready last
    have idle : (sys.step env .usb).machine.accepting = none := by
      have effect := (step_effect tracked.1 .usb).effect
      rw [seen] at effect
      cases effect with
      | accept _ _ _ _ _ _ idle => exact idle
    apply Recorded.intact after.1.nonce_size (after.2.of_idle idle)
    intro part bound
    rw [accepted]
    by_cases same : p.noncePart = part
    · rw [← same, lastOf_cons_self, Option.isSome_some]
    · rw [lastOf_cons_other same]
      refine parts p rfl ready last part (UInt8.lt_of_le_of_ne bound ?_)
      rw [← last]
      exact Ne.symm same

/-- A run signs only intact nonces exactly when every part 4 it accepts comes after parts
0 to 3 of the same nonce. `set_nonce` itself never looks at `next_part`. -/
theorem nonce_integrity_iff (env : Env) (es : List Event) :
    Along (System.step env) (IntegrityStep env) System.boot es ↔
      Along (System.step env) PartsBefore System.boot es :=
  along_congr (fun sys e tracked => tracked_step sys e tracked)
    (fun _ e tracked => integrityStep_iff tracked e) (tracked_boot env) es

/-- Right after boot, part 4 alone, with the id 0 that `auth_state` holds then, starts the
signing of a nonce that was never sent. -/
theorem lone_last_part_signed :
    ¬ Along (System.step exampleEnv) (IntegrityStep exampleEnv) System.boot
      [.request (zeroPacket 0 4), .usb, .usb, .usb] := by
  intro holds
  have last := (along_iff_split _ _).mp holds [.request (zeroPacket 0 4), .usb, .usb] .usb [] rfl
  obtain ⟨p₀, p₁, p₂, p₃, p₄, none₀, -⟩ := last ⟨by decide, by decide⟩
  cases none₀

end PassingLink.Ps4
