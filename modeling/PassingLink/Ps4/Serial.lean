import PassingLink.Ps4.History

/-! What a callback and the work item do when they are left alone until they return. -/
namespace PassingLink.Ps4
open Lib Auth

variable {env : Env}

theorem usb_finishes (m : Machine) :
    ∃ n, run (Machine.step env) m (List.replicate n .usb) =
      { m with
        usb := .ret (m.usb.finish (exec env .success) m.shared).1
        shared := (m.usb.finish (exec env .success) m.shared).2 } :=
  Prog.run_finishes (exec env .success) (fun usb shared => { m with usb, shared })
    (fun _ _ _ => rfl) m.usb m.shared

theorem worker_finishes (m : Machine) :
    ∃ n, run (Machine.step env) m (List.replicate n (.worker .success)) =
      { m with
        worker := .ret (m.worker.finish (exec env .success) m.shared).1
        shared := (m.worker.finish (exec env .success) m.shared).2 } :=
  Prog.run_finishes (exec env .success) (fun worker shared => { m with worker, shared })
    (fun _ _ _ => rfl) m.worker m.shared

/-! ### The work item, when every mbedTLS call succeeds -/

section Worker
variable (s : Shared)

def after (env : Env) (p : Auth Unit) (s : Shared) : Shared :=
  (p.finish (exec env .success) s).2

theorem sendSignature_sends :
    (after env (sendSignature s.authState) s).authState.type = .sendingSignature := by
  simp only [after, sendSignature, cas_bind, Prog.finish_op, exec, if_true, Prog.pure_eq,
    Prog.finish_ret]

theorem signHash_sends (keyed : env.ps4Key.isSome) (hashedNonce : List UInt8) :
    (after env (signHash env s.authState hashedNonce) s).authState.type = .sendingSignature := by
  obtain ⟨key, keyed⟩ := Option.isSome_iff_exists.mp keyed
  simp only [after, signHash, keyed, rsaSign_bind, Prog.finish_op, exec]
  exact sendSignature_sends _

theorem hashNonce_sends (keyed : env.ps4Key.isSome) :
    (after env (hashNonce env s.authState) s).authState.type = .sendingSignature := by
  simp only [after, hashNonce, sha256_bind, Prog.finish_op, exec]
  exact signHash_sends s keyed _

theorem beginSigning_sends (keyed : env.ps4Key.isSome) :
    (after env (beginSigning env s.authState) s).authState.type = .sendingSignature := by
  simp only [after, beginSigning, cas_bind, Prog.finish_op, exec, if_true]
  exact hashNonce_sends { s with authState := { s.authState with type := .signing } } keyed

theorem signNonce_sends (keyed : env.ps4Key.isSome) (type : s.authState.type = .waitingToSign) :
    (after env (signNonce env) s).authState.type = .sendingSignature := by
  simp only [after, signNonce, load_bind, Prog.finish_op, exec, type, ne_eq, not_true_eq_false,
    if_false]
  exact beginSigning_sends s keyed

end Worker

/-! ### A request for a chunk of the signature -/

theorem chunk_request {s : Shared} {key : PS4Key} {old : List UInt8} (able : env.ps4Auth = true)
    (keyed : env.ps4Key = some key) (type : s.authState.type = .sendingSignature)
    (bound : s.authState.nextPart < 19) (signature_size : s.nonceSignature.length = 256)
    (size : old.length = 64) :
    ((Request.getFeatureReport 0xF1 old).program env).finish (exec env .success) s =
      (.get 64 (chunkReport env s.authState
        (slice (signatureBlob key s.nonceSignature) (s.authState.nextPart.toNat * 56) 56)),
        { s with authState := chunkSent s.authState }) := by
  have fits : s.authState.nextPart.toNat * 56 + 56 ≤ 1064 := part_window bound
  have kept : (overwrite old 0 [0xF1]).length = 64 := by
    rw [length_overwrite (by rw [size]; decide), size]
  have copied : copySignature key s.nonceSignature 56 (s.authState.nextPart.toNat * 56) =
      some (slice (signatureBlob key s.nonceSignature) (s.authState.nextPart.toNat * 56) 56) :=
    copySignature_window signature_size fits
  have length : (slice (signatureBlob key s.nonceSignature)
      (s.authState.nextPart.toNat * 56) 56).length = 56 := length_window signature_size fits
  have program : (Request.getFeatureReport 0xF1 old).program env =
      getReply (getSignature env (overwrite old 0 [0xF1])) := by
    simp only [Request.program, getFeatureReport, able]
    rfl
  rw [program]
  simp only [getReply, getSignature, load_bind, Prog.op_bind, Prog.finish_op, exec, type, ne_eq,
    not_true_eq_false, if_false, kept, getNextSignatureChunk, copyChunk, readSignature_bind,
    keyed, Option.bind_some, copied, advanceChunk, cas_bind, if_true, Prog.pure_eq,
    Prog.ret_bind, Prog.finish_ret, sendChunk_reply env s.authState kept length]

end PassingLink.Ps4
