import PassingLink.Lib.Reassembly
import PassingLink.Ps4.Atomicity

/-! Which nonce reports are accepted, and what acceptance does. -/
namespace PassingLink.Ps4
open Lib Auth

/-! ### The assertions of `span` -/

namespace Span

/-- `none` is a failed assertion. -/
def removePrefix (data : List UInt8) (n : Nat) : Option (List UInt8) :=
  if n ≤ data.length then some (data.drop n) else none

def removeSuffix (data : List UInt8) (n : Nat) : Option (List UInt8) :=
  if n ≤ data.length then some (data.take (data.length - n)) else none

end Span

/-- `PS4Hid::SetReport` with its assertions and with the bounds of the bytes it reads. -/
def setReportAsserting (env : Env) (reportType : Option HidReportType) (reportId : UInt8)
    (data : List UInt8) : Option (Auth Bool) :=
  if reportType ≠ some .feature then some (return false)
  else if reportId = 0xF0 then
    if !env.ps4Auth then some (return true)
    else if data.length ≠ 64 then some (return false)
    else if !checkCrc env data then some (return false)
    else do
      let nonceId ← data[1]?
      let noncePart ← data[2]?
      let data ← Span.removePrefix data 4
      let data ← Span.removeSuffix data 4
      let data ← if noncePart = 4 then Span.removeSuffix data 24 else some data
      some (setNonce env nonceId noncePart data)
  else some (return false)

/-! ### What a nonce report has to be -/

structure Acceptable (env : Env) (state : AuthState) (data : List UInt8) : Prop where
  keyed : env.ps4Key.isSome
  size : data.length = 64
  crc : data.drop 60 = crcBytes (env.crc32Ieee (data.take 60))
  receiving : state.type = .receivingNonce
  part : data.getD 2 0 ≤ 4
  id : data.getD 2 0 = 0 ∨ data.getD 1 0 = state.nonceId

/-- The bytes of the nonce that a report is for. -/
def nonceBegin (data : List UInt8) : Nat := 56 * (data.getD 2 0).toNat

def nonceEnd (data : List UInt8) : Nat := min (nonceBegin data + 56) 256

/-- What serving a nonce report does to the state `s`. -/
structure NonceOutcome (env : Env) (data : List UInt8) (s : Shared) (accepted : Bool)
    (s' : Shared) : Prop where
  exact : accepted = true ↔ Acceptable env s.authState data
  stored : accepted = true → ∀ i, s'.nonce[i]? =
    if nonceBegin data ≤ i ∧ i < nonceEnd data then data[4 + (i - nonceBegin data)]?
    else s.nonce[i]?
  inside : s'.nonce.length = 256
  refused : accepted = false → s' = s

section Serving
variable {env : Env} {data : List UInt8} {s : Shared}

theorem setReportAsserting_eq (reportType : Option HidReportType) (reportId : UInt8) :
    setReportAsserting env reportType reportId data =
      some (setReport env reportType reportId data) := by
  unfold setReportAsserting setReport
  split
  · rfl
  split
  · split
    · rfl
    split
    · rfl
    · rename_i size
      have size : data.length = 64 := Decidable.not_not.mp size
      split
      · rfl
      · have cut : 4 ≤ (data.drop 4).length := by
          rw [List.length_drop, size]
          decide
        have padded : 24 ≤ ((data.drop 4).take ((data.drop 4).length - 4)).length := by
          rw [List.length_take, List.length_drop, size]
          decide
        rw [List.getElem?_eq_getElem (by omega), List.getElem?_eq_getElem (by omega),
          Span.removePrefix, if_pos (by omega)]
        simp only [Option.bind_eq_bind, Option.bind_some, Span.removeSuffix, if_pos cut,
          if_pos padded, List.getD_eq_getElem?_getD,
          List.getElem?_eq_getElem (show 1 < data.length by omega),
          List.getElem?_eq_getElem (show 2 < data.length by omega), Option.getD_some,
          noncePayload, Ps4.removeSuffix]
        split <;> rfl
  · rfl

theorem checkCrc_iff (size : data.length = 64) :
    checkCrc env data = true ↔ data.drop 60 = crcBytes (env.crc32Ieee (data.take 60)) := by
  rw [checkCrc, if_neg (by omega), size, beq_iff_eq]
  exact eq_comm

def submitted (noncePart : UInt8) (pending : Bool) : Bool :=
  if noncePart = 4 then true else pending

theorem storeNonce_finish (nonceId noncePart : UInt8) (payload : List UInt8) :
    (storeNonce s.authState nonceId noncePart payload).finish (exec env .success) s =
      (true,
        { s with
          authState := nonceAccepted s.authState nonceId noncePart
          nonce := overwrite s.nonce (noncePart.toNat * 56) payload
          workPending := submitted noncePart s.workPending }) := by
  simp only [storeNonce, writeNonce, commitNonce, cas_bind, Prog.op_bind, Prog.ret_bind,
    Prog.finish_op, exec, if_true, submitIfDone, submitted]
  split <;> rfl

theorem setNonce_finish (payload : List UInt8) (nonceId noncePart : UInt8) :
    (setNonce env nonceId noncePart payload).finish (exec env .success) s =
      if env.ps4Key.isSome ∧ s.authState.type = .receivingNonce ∧ noncePart ≤ 4 ∧
          (noncePart = 0 ∨ nonceId = s.authState.nonceId) then
        (storeNonce s.authState nonceId noncePart payload).finish (exec env .success) s
      else (false, s) := by
  unfold setNonce Env.ps4Key
  cases env.provisioningData with
  | none => rfl
  | some pd =>
      cases keyed : pd.ps4Key with
      | none =>
          simp only [Option.bind_some, keyed, Option.isSome_none, Bool.false_eq_true, false_and,
            if_false]
          rfl
      | some key =>
          simp only [Option.bind_some, keyed, Option.isSome_some, true_and]
          change Prog.finish _ (if s.authState.type ≠ .receivingNonce then (return false)
            else if noncePart > 4 then (return false)
            else if noncePart ≠ 0 ∧ nonceId ≠ s.authState.nonceId then (return false)
            else storeNonce s.authState nonceId noncePart payload) s = _
          by_cases type : s.authState.type = .receivingNonce
          · rw [if_neg (not_not_intro type)]
            by_cases large : noncePart > 4
            · have refused : ¬ noncePart ≤ 4 := UInt8.not_le.mpr large
              rw [if_pos large, if_neg fun ok => refused ok.2.1]
              rfl
            · have small : noncePart ≤ 4 := UInt8.not_lt.mp large
              rw [if_neg large]
              by_cases other : noncePart ≠ 0 ∧ nonceId ≠ s.authState.nonceId
              · have refused : ¬ (noncePart = 0 ∨ nonceId = s.authState.nonceId) :=
                  not_or.mpr other
                rw [if_pos other, if_neg fun ok => refused ok.2.2]
                rfl
              · have same : noncePart = 0 ∨ nonceId = s.authState.nonceId := by
                  rcases not_and_or.mp other with first | id
                  · exact Or.inl (Decidable.not_not.mp first)
                  · exact Or.inr (Decidable.not_not.mp id)
                rw [if_neg other, if_pos ⟨type, small, same⟩]
          · rw [if_pos type, if_neg fun ok => type ok.1]
            rfl

theorem setReport_finish (auth : env.ps4Auth = true) :
    (Acceptable env s.authState data ∧
      (setReport env (some .feature) 0xF0 data).finish (exec env .success) s =
        (storeNonce s.authState (data.getD 1 0) (data.getD 2 0)
          (noncePayload data (data.getD 2 0))).finish (exec env .success) s) ∨
    (¬ Acceptable env s.authState data ∧
      (setReport env (some .feature) 0xF0 data).finish (exec env .success) s = (false, s)) := by
  simp only [setReport, ne_eq, not_true_eq_false, if_false, if_true, auth, Bool.not_true,
    Bool.false_eq_true]
  by_cases size : data.length = 64
  · by_cases crc : checkCrc env data = true
    · simp only [size, not_true_eq_false, if_false, crc, Bool.not_true, Bool.false_eq_true,
        setNonce_finish]
      split
      · rename_i checks
        exact Or.inl ⟨⟨checks.1, size, (checkCrc_iff size).mp crc, checks.2.1, checks.2.2.1,
          checks.2.2.2⟩, rfl⟩
      · rename_i checks
        exact Or.inr ⟨fun ok => checks ⟨ok.keyed, ok.receiving, ok.part, ok.id⟩, rfl⟩
    · simp only [size, not_true_eq_false, if_false, crc, Bool.not_false, if_true]
      exact Or.inr ⟨fun ok => crc ((checkCrc_iff size).mpr ok.crc), rfl⟩
  · simp only [size, not_false_eq_true, if_true]
    exact Or.inr ⟨fun ok => size ok.size, rfl⟩

theorem length_payload (size : data.length = 64) (part : data.getD 2 0 ≤ 4) :
    nonceBegin data + (noncePayload data (data.getD 2 0)).length = nonceEnd data := by
  have small : (data.getD 2 0).toNat ≤ 4 := UInt8.le_iff_toNat_le.mp part
  rw [length_noncePayload size]
  unfold nonceEnd nonceBegin
  by_cases last : data.getD 2 0 = 4
  · rw [if_pos last, last]
    rfl
  · have other : (data.getD 2 0).toNat ≠ 4 := fun same => last (UInt8.toNat_inj.mp same)
    rw [if_neg last]
    omega

theorem getElem?_noncePayload {noncePart : UInt8} {i : Nat}
    (inside : i < (noncePayload data noncePart).length) :
    (noncePayload data noncePart)[i]? = data[4 + i]? := by
  unfold noncePayload Ps4.removeSuffix at inside ⊢
  split at inside
  · rename_i last
    simp only [List.length_take, List.length_drop] at inside
    simp only [if_pos last, List.getElem?_take, List.getElem?_drop, List.length_take,
      List.length_drop]
    rw [if_pos (by omega), if_pos (by omega)]
  · rename_i other
    simp only [List.length_take, List.length_drop] at inside
    simp only [if_neg other, List.getElem?_take, List.getElem?_drop, List.length_drop]
    rw [if_pos (by omega)]

theorem nonce_outcome (auth : env.ps4Auth = true) (size : s.nonce.length = 256)
    (data : List UInt8) :
    NonceOutcome env data s
      ((setReport env (some .feature) 0xF0 data).finish (exec env .success) s).1
      ((setReport env (some .feature) 0xF0 data).finish (exec env .success) s).2 := by
  rcases @setReport_finish env data s auth with ⟨ok, served⟩ | ⟨wrong, served⟩
  · rw [served, storeNonce_finish]
    have stop := length_payload ok.size ok.part
    have fits : nonceBegin data + (noncePayload data (data.getD 2 0)).length ≤ s.nonce.length := by
      rw [stop, size]
      exact Nat.min_le_right _ _
    have begin : (data.getD 2 0).toNat * 56 = nonceBegin data := Nat.mul_comm _ _
    refine ⟨iff_of_true rfl ok, ?_, ?_, fun refused => absurd refused.symm Bool.false_ne_true⟩
    · rintro - i
      let write : Write UInt8 := ⟨nonceBegin data, noncePayload data (data.getD 2 0)⟩
      have bytes := @Write.getElem?_apply _ s.nonce write fits i
      rw [begin]
      refine bytes.trans ?_
      by_cases covered : nonceBegin data ≤ i ∧ i < nonceEnd data
      · have inside : i - nonceBegin data < (noncePayload data (data.getD 2 0)).length := by omega
        rw [if_pos (Write.covers_iff.mpr ⟨covered.1, by rw [stop]; exact covered.2⟩),
          if_pos covered]
        exact getElem?_noncePayload inside
      · have outside : ¬ write.covers i = true := by
          intro inside
          obtain ⟨from_begin, to_end⟩ := Write.covers_iff.mp inside
          exact covered ⟨from_begin, lt_of_lt_of_eq to_end stop⟩
        rw [if_neg outside, if_neg covered]
    · rw [begin]
      exact (length_overwrite fits).trans size
  · rw [served]
    exact ⟨iff_of_false Bool.false_ne_true wrong, fun ok => absurd ok Bool.false_ne_true, size,
      fun _ => rfl⟩

/-! ### A nonce report beside the work item -/

theorem setNonce_within (nonceId noncePart : UInt8) (payload : List UInt8) :
    Prog.Within 4 (setReply (setNonce env nonceId noncePart payload)) := by
  unfold setNonce
  cases env.provisioningData with
  | none => trivial
  | some pd =>
      cases keyed : pd.ps4Key with
      | none =>
          simp only [keyed]
          trivial
      | some key =>
          simp only [keyed]
          intro (state : AuthState)
          change Prog.Within 3 (setReply (if state.type ≠ .receivingNonce then return false
            else if noncePart > 4 then return false
            else if noncePart ≠ 0 ∧ nonceId ≠ state.nonceId then return false
            else storeNonce state nonceId noncePart payload))
          split
          · trivial
          split
          · trivial
          split
          · trivial
          intro stored swapped
          cases swapped with
          | false => trivial
          | true =>
              change Prog.Within 1 (setReply (submitIfDone noncePart))
              unfold submitIfDone
              split
              · exact fun _ => trivial
              · trivial

theorem setReport_within (reportType : Option HidReportType) (reportId : UInt8) :
    Prog.Within 4 (setReply (setReport env reportType reportId data)) := by
  unfold setReport
  split
  · trivial
  split
  · split
    · trivial
    split
    · trivial
    split
    · trivial
    · exact setNonce_within _ _ _
  · trivial

end Serving

def nonceReport (data : List UInt8) : Request := .setReport (some .feature) 0xF0 data

/-- The machine after a run and, on top of it, some moves during a nonce report. -/
def nonceCall (env : Env) (es : List Event) (data : List UInt8)
    (moves : List (Option MbedResult)) : Machine :=
  run (Machine.step env)
    ((run (Machine.step env) Machine.boot es).step env (.request (nonceReport data)))
    (moves.map .ofMove)

/-- The report is accepted or refused in the state `m` that the work item has left at one point
of the call, and the call does nothing else. -/
structure NonceServed (env : Env) (es : List Event) (data : List UInt8)
    (moves : List (Option MbedResult)) (accepted : Bool) (before after : List MbedResult)
    (m : Machine) (s' : Shared) : Prop where
  split : moves.reduceOption = before ++ after
  point : m = run (Machine.step env) Machine.boot (es ++ before.map .worker)
  outcome : NonceOutcome env data m.shared accepted s'
  rest : nonceCall env es data moves =
    run (Machine.step env) ⟨s', nonceReport data, .ret (.set accepted), m.worker⟩
      (after.map .worker)

structure NonceExact (env : Env) (es : List Event) (data : List UInt8)
    (moves : List (Option MbedResult)) : Prop where
  asserted : setReportAsserting env (some .feature) 0xF0 data =
    some (setReport env (some .feature) 0xF0 data)
  returns : 4 ≤ moves.countP Option.isNone →
    ∃ reply, (nonceCall env es data moves).usb = .ret reply
  served : ∀ reply, (nonceCall env es data moves).usb = .ret reply →
    ∃ accepted, reply = .set accepted ∧
      ∃ before after m s', NonceServed env es data moves accepted before after m s'

section Exact
variable {env : Env}

theorem nonceCall_returns (es : List Event) {last : Reply}
    (idle : (run (Machine.step env) Machine.boot es).usb = .ret last) (data : List UInt8)
    {moves : List (Option MbedResult)} (enough : 4 ≤ moves.countP Option.isNone) :
    ∃ reply, (nonceCall env es data moves).usb = .ret reply := by
  unfold nonceCall
  generalize run (Machine.step env) Machine.boot es = m at idle
  obtain ⟨shared, old, usb, worker⟩ := m
  obtain rfl : usb = .ret last := idle
  have start : Machine.step env ⟨shared, old, .ret last, worker⟩ (.request (nonceReport data)) =
      Machine.ofCall (nonceReport data) ((nonceReport data).program env, shared, worker) := rfl
  rw [start, run_moves]
  exact Prog.within_returns (setReport_within (some .feature) 0xF0) enough (shared, worker)

theorem serve_nonceReport (m : Machine) (data : List UInt8) :
    m.serve env (nonceReport data) =
      ⟨((setReport env (some .feature) 0xF0 data).finish (exec env .success) m.shared).2,
        nonceReport data,
        .ret (.set
          ((setReport env (some .feature) 0xF0 data).finish (exec env .success) m.shared).1),
        m.worker⟩ := by
  have reply := @Prog.finish_bind _ _ _ _ _ (exec env .success)
    (setReport env (some .feature) 0xF0 data) (fun accepted => .ret (Reply.set accepted)) m.shared
  have program : (nonceReport data).program env =
      setReport env (some .feature) 0xF0 data >>= fun accepted => .ret (Reply.set accepted) := rfl
  rw [Machine.serve, program, reply]
  rfl

/-- In a build with authentication a nonce report is accepted exactly if it is what it has to
be, and is stored whole or not at all, whatever the work item does meanwhile. -/
theorem nonce_report_exact (auth : env.ps4Auth = true) (es : List Event) {last : Reply}
    (idle : (run (Machine.step env) Machine.boot es).usb = .ret last) (data : List UInt8)
    (moves : List (Option MbedResult)) : NonceExact env es data moves := by
  refine ⟨setReportAsserting_eq _ _, nonceCall_returns es idle data, ?_⟩
  intro reply returned
  obtain ⟨before, after, split, reached⟩ := callback_linearizes es idle (nonceReport data) moves
    returned
  have inv := run_inv (boot_inv env) (es ++ before.map .worker)
  rw [serve_nonceReport] at reached
  have outcome := nonce_outcome auth inv.nonce_size data
  refine ⟨_, ?_, before, after, _, _, split, rfl, outcome, reached⟩
  have same := congrArg Machine.usb reached
  have quiet := @run_work env (nonceReport data)
  exact Prog.ret.inj (returned.symm.trans (same.trans (congrArg Machine.usb (quiet _ (_, _) _))))

end Exact

/-- The last part of a nonce right after boot, whose id is the 0 that `auth_state` has then. -/
def lastPart : List UInt8 :=
  [0xF0, 0, 4, 0] ++ List.replicate 56 0 ++ crcBytes (zeroPayloadCrc 0 4)

theorem last_part_exact :
    NonceExact exampleEnv [] lastPart (List.replicate 4 none) :=
  nonce_report_exact rfl [] rfl lastPart (List.replicate 4 none)

end PassingLink.Ps4
