import PassingLink.Ps4.Serial

/-! How the signature reaches the console. -/
namespace PassingLink.Ps4
open Lib Auth

variable {env : Env}

/-- Reply `k` to report 0xF1: the header, bytes `56k` to `56k + 55` of the blob, the CRC. -/
def signatureReply (env : Env) (nonceId : UInt8) (blob : List UInt8) (k : Nat) : List UInt8 :=
  let data := [0xF1, nonceId, UInt8.ofNat k, 0] ++ slice blob (56 * k) 56
  data ++ crcBytes (env.crc32Ieee data)

def signatureReplies (env : Env) (nonceId : UInt8) (blob : List UInt8) (n : Nat) :
    List (List UInt8) :=
  (List.range n).map (signatureReply env nonceId blob)

theorem signatureReplies_succ (nonceId : UInt8) (blob : List UInt8) (n : Nat) :
    signatureReplies env nonceId blob (n + 1) =
      signatureReplies env nonceId blob n ++ [signatureReply env nonceId blob n] := by
  simp only [signatureReplies, List.range_succ, List.map_append, List.map_cons, List.map_nil]

theorem chunkReport_eq (state : AuthState) (blob : List UInt8) :
    chunkReport env state (slice blob (state.nextPart.toNat * 56) 56) =
      signatureReply env state.nonceId blob state.nextPart.toNat := by
  simp only [chunkReport, chunkData, signatureReply, UInt8.ofNat_toNat, Nat.mul_comm 56]

theorem chunkSent_last {s : AuthState} (last : s.nextPart + 1 = 19) :
    chunkSent s = { s with type := .receivingNonce, nextPart := 0 } := by
  rw [chunkSent, if_pos last]

theorem chunkSent_more {s : AuthState} (more : s.nextPart + 1 ≠ 19) :
    chunkSent s = { s with nextPart := s.nextPart + 1 } := by
  rw [chunkSent, if_neg more]

theorem toNat_succ {part : UInt8} (bound : part < 19) : (part + 1).toNat = part.toNat + 1 := by
  have small := UInt8.lt_iff_toNat_lt.mp bound
  simp only [UInt8.toNat_add, UInt8.reduceToNat] at small ⊢
  omega

/-- While the signature is sent, the replies on record are the first `next_part`. -/
def RepliesInOrder (env : Env) (sys : System) : Prop :=
  ∀ key, sys.machine.shared.authState.type = .sendingSignature → env.ps4Key = some key →
    sys.history.replies = signatureReplies env sys.machine.shared.authState.nonceId
      (signatureBlob key sys.machine.shared.nonceSignature)
      sys.machine.shared.authState.nextPart.toNat

def Observation.sent : Observation → List (List UInt8)
  | .chunk buf => [buf]
  | _ => []

theorem record_replies {h : History} {m m' : Machine} {seen : Observation}
    (same : m'.shared.authState.type ≠ .sendingSignature ∨
      m.shared.authState.type = .sendingSignature) :
    (h.record m m' seen).replies = h.replies ++ seen.sent := by
  have stays : ¬ Entered .sendingSignature m m' := by
    rintro ⟨before, after⟩
    rcases same with other | sending
    · exact other after
    · exact before sending
  simp only [History.record, if_neg stays]
  cases seen with
  | chunk => rfl
  | silent | accepted | result => exact (List.append_nil _).symm

/-- One step from `SendingSignature`: nothing moves, or the next reply is sent. -/
inductive SendStep (env : Env) (sys sys' : System) : Prop
  | waits : sys'.machine.shared.authState = sys.machine.shared.authState →
      sys'.history.replies = sys.history.replies → SendStep env sys sys'
  | sends {key} : env.ps4Key = some key → sys.machine.request.AsksChunk →
      sys'.machine.shared.authState = chunkSent sys.machine.shared.authState →
      sys'.history.replies = sys.history.replies ++
        [signatureReply env sys.machine.shared.authState.nonceId
          (signatureBlob key sys.machine.shared.nonceSignature)
          sys.machine.shared.authState.nextPart.toNat] → SendStep env sys sys'

theorem step_sending {sys : System} (inv : Inv env sys.machine)
    (sending : sys.machine.shared.authState.type = .sendingSignature) (e : Event) :
    SendStep env sys (sys.step env e) ∧
      (sys.step env e).machine.shared.nonceSignature = sys.machine.shared.nonceSignature := by
  have effect := (step_effect inv e).effect
  have recorded : (sys.step env e).history.replies =
      sys.history.replies ++ (sys.machine.observe env e).sent := record_replies (Or.inr sending)
  generalize sys.machine.observe env e = seen at effect recorded
  cases effect with
  | quiet auth _ signature => exact ⟨.waits auth (recorded.trans (List.append_nil _)), signature⟩
  | store type | accept type | begin type | mbedtls type | send type =>
      cases type.symm.trans sending
  | @sendChunk key _ auth _ signature keyed asks =>
      rw [chunkReport_eq] at recorded
      exact ⟨.sends keyed asks auth recorded, signature⟩

theorem step_entering {sys : System} (inv : Inv env sys.machine) {e : Event}
    (entered : Entered .sendingSignature sys.machine (sys.step env e).machine) :
    (sys.step env e).machine.shared.authState.nextPart = 0 ∧
      (sys.step env e).history.replies = [] := by
  refine ⟨?_, by simp only [System.step, History.record] at entered ⊢; rw [if_pos entered]⟩
  obtain ⟨before, after⟩ := entered
  have effect := (step_effect inv e).effect
  generalize sys.machine.observe env e = seen at effect
  cases effect with
  | quiet auth | store _ _ auth | mbedtls _ auth => exact absurd (auth ▸ after) before
  | @accept p type _ auth =>
      have later : (nonceAccepted sys.machine.shared.authState p.nonceId p.noncePart).type =
          .sendingSignature := auth ▸ after
      by_cases last : p.noncePart = 4
      · rw [last, nonceAccepted_last] at later
        cases later
      · rw [nonceAccepted_type last] at later
        exact absurd later before
  | begin _ auth => cases (congrArg AuthState.type auth).symm.trans after
  | send _ auth => exact congrArg AuthState.nextPart auth
  | sendChunk type => exact absurd type before

theorem repliesInOrder_step {sys : System} (inv : Inv env sys.machine)
    (ordered : RepliesInOrder env sys) (e : Event) : RepliesInOrder env (sys.step env e) := by
  intro key type keyed
  by_cases sending : sys.machine.shared.authState.type = .sendingSignature
  · obtain ⟨step, signature⟩ := step_sending inv sending e
    rw [signature]
    cases step with
    | waits auth replies => rw [auth, replies, ordered key sending keyed]
    | @sends key' keyed' _ auth replies =>
        obtain rfl : key = key' := Option.some.inj (keyed.symm.trans keyed')
        by_cases last : sys.machine.shared.authState.nextPart + 1 = 19
        · rw [auth, chunkSent_last last] at type
          cases type
        · rw [replies, auth, chunkSent_more last, ordered key sending keyed,
            toNat_succ (inv.next_part sending), signatureReplies_succ]
  · obtain ⟨first, empty⟩ := step_entering inv ⟨sending, type⟩
    rw [first, empty]
    rfl

theorem reach_repliesInOrder (env : Env) (es : List Event) :
    RepliesInOrder env (reach env es) := by
  have initial : RepliesInOrder env System.boot := by
    intro key type
    cases type
  apply reach_of_step initial
  intro sys e inv ordered
  exact repliesInOrder_step inv ordered e

/-- Everything the console can rely on when it reads a signature, in one state of a run.
`blob` below is the 1064 bytes the 19 replies are cut from, and `signedNonce`, `signedId`
are the buffer and the id when the nonce was complete. -/
structure SignatureTransport (env : Env) (sys : System) : Prop where
  /-- While the signature is sent, the replies so far are the first `next_part` of 19. -/
  sending : sys.machine.shared.authState.type = .sendingSignature →
    ∃ key, env.ps4Key = some key ∧
      sys.machine.shared.nonceSignature = signatureOf env key sys.history.signedNonce ∧
      (signatureBlob key sys.machine.shared.nonceSignature).length = 1064 ∧
      sys.machine.shared.authState.nextPart < 19 ∧
      sys.history.replies = signatureReplies env sys.history.signedId
        (signatureBlob key sys.machine.shared.nonceSignature)
        sys.machine.shared.authState.nextPart.toNat
  /-- The state is left with all 19 replies sent, for `ReceivingNonce` with part 0. -/
  leaves : ∀ e, sys.machine.shared.authState.type = .sendingSignature →
    (sys.step env e).machine.shared.authState.type ≠ .sendingSignature →
    (sys.step env e).machine.shared.authState.type = .receivingNonce ∧
      (sys.step env e).machine.shared.authState.nextPart = 0 ∧
      ∃ key, env.ps4Key = some key ∧
        (sys.step env e).history.replies = signatureReplies env sys.history.signedId
          (signatureBlob key (signatureOf env key sys.history.signedNonce)) 19
  /-- No reply is sent in any other state. -/
  only_sending : ∀ e buf, sys.machine.observe env e = .chunk buf →
    sys.machine.shared.authState.type = .sendingSignature
  accepted : ∀ e buf, sys.machine.observe env e = .chunk buf → checkCrc env buf = true
  /-- While any other request is served (one with a wrong buffer size, one for report
  0xF2), no chunk is consumed. -/
  other_requests : ∀ e, sys.machine.shared.authState.type = .sendingSignature →
    ¬ sys.machine.request.AsksChunk →
    (sys.step env e).machine.shared.authState = sys.machine.shared.authState ∧
      (sys.step env e).history.replies = sys.history.replies
  /-- An idle callback answers a well-formed request with the next reply. -/
  serves : ∀ idle old, sys.machine.shared.authState.type = .sendingSignature →
    sys.machine.usb = .ret idle → old.length = 64 →
    ∃ n key, env.ps4Key = some key ∧
      (run (System.step env) sys
        (.request (.getFeatureReport 0xF1 old) :: List.replicate n .usb)).machine.usb =
      .ret (.get 64 (signatureReply env sys.history.signedId
        (signatureBlob key (signatureOf env key sys.history.signedNonce))
        sys.machine.shared.authState.nextPart.toNat))

theorem observed_chunk {sys : System} (inv : Inv env sys.machine) {e : Event}
    {buf : List UInt8} (seen : sys.machine.observe env e = .chunk buf) :
    sys.machine.shared.authState.type = .sendingSignature ∧ checkCrc env buf = true := by
  have effect := (step_effect inv e).effect
  rw [seen] at effect
  cases effect with
  | sendChunk type => exact ⟨type, checkCrc_append env _⟩

theorem reach_signature (env : Env) (es : List Event)
    (type : (reach env es).machine.shared.authState.type = .sendingSignature) :
    ∃ key, env.ps4Key = some key ∧
      (reach env es).machine.shared.nonceSignature =
        signatureOf env key (reach env es).history.signedNonce ∧
      (reach env es).history.signedId = (reach env es).machine.shared.authState.nonceId := by
  obtain ⟨-, -, -, key, keyed, signature⟩ := (reach_inv env es).phase.of_sending type
  obtain ⟨nonce, id⟩ := reach_signedNonce env es (by rw [type]; decide)
  exact ⟨key, keyed, by rw [nonce]; exact signature, id⟩

theorem signature_transport (env : Env) (es : List Event) :
    SignatureTransport env (reach env es) := by
  have inv := reach_inv env es
  have ordered := reach_repliesInOrder env es
  have signed := reach_signature env es
  generalize reach env es = sys at inv ordered signed
  refine ⟨?_, ?_, ?_, ?_, ?_, ?_⟩
  · intro type
    obtain ⟨key, keyed, signature, id⟩ := signed type
    refine ⟨key, keyed, signature, length_signatureBlob inv.signature_size, inv.next_part type, ?_⟩
    rw [id]
    exact ordered key type keyed
  · intro e type left
    obtain ⟨key, keyed, signature, id⟩ := signed type
    cases (step_sending inv type e).1 with
    | waits auth => exact absurd (auth ▸ type) left
    | @sends key' keyed' _ auth replies =>
        obtain rfl : key = key' := Option.some.inj (keyed.symm.trans keyed')
        by_cases last : sys.machine.shared.authState.nextPart + 1 = 19
        · have number : sys.machine.shared.authState.nextPart.toNat + 1 = 19 := by
            rw [← toNat_succ (inv.next_part type), last]
            rfl
          rw [auth, chunkSent_last last]
          refine ⟨rfl, rfl, key, keyed, ?_⟩
          rw [replies, ordered key type keyed, ← signatureReplies_succ, number, id, signature]
        · rw [auth, chunkSent_more last] at left
          exact absurd type left
  · intro e buf seen
    exact (observed_chunk inv seen).1
  · intro e buf seen
    exact (observed_chunk inv seen).2
  · intro e type other
    cases (step_sending inv type e).1 with
    | waits auth replies => exact ⟨auth, replies⟩
    | sends _ asks => exact absurd asks other
  · intro idle old type usb size
    obtain ⟨key, keyed, signature, id⟩ := signed type
    have able := inv.able (by rw [type]; decide)
    obtain ⟨n, finished⟩ :=
      @usb_finishes env (sys.machine.step env (.request (.getFeatureReport 0xF1 old)))
    have started : sys.machine.step env (.request (.getFeatureReport 0xF1 old)) =
        { sys.machine with
          request := .getFeatureReport 0xF1 old
          usb := (Request.getFeatureReport 0xF1 old).program env } := by
      simp only [Machine.step, usb]
    have answered :=
      chunk_request able.1 keyed type (inv.next_part type) inv.signature_size size
    refine ⟨n, key, keyed, ?_⟩
    rw [run_machine, run_cons, finished, started]
    simp only [answered, chunkReport_eq, id, signature]

end PassingLink.Ps4
