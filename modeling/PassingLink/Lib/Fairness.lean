import PassingLink.Lib.Atomic

/-! How far a run gets in which every party moves again and again. -/
namespace PassingLink.Lib

section Rounds
variable {σ ε κ : Type*} (step : σ → ε → σ) (party : ε → κ)

/-- `rank n k s` says that at most `n` rounds are left, and that this one is over at the latest
when `k` moves. -/
def Advances (rank : Nat → κ → σ → Prop) : Prop :=
  ∀ n k s e, rank n k s → ∃ n' k', rank n' k' (step s e) ∧
    (n' < n ∨ n' = n ∧ (n = 0 ∨ k' = k ∧ party e ≠ k))

/-- Every party moves. -/
def Round (es : List ε) : Prop := ∀ k, ∃ e ∈ es, party e = k

variable {step party} {rank : Nat → κ → σ → Prop} {n : Nat} {k : κ} {s : σ}

theorem Advances.run (advances : Advances step party rank) (ranked : rank n k s) (es : List ε) :
    ∃ n' k', rank n' k' (run step s es) ∧ n' ≤ n := by
  induction es generalizing n k s with
  | nil => exact ⟨n, k, ranked, Nat.le_refl n⟩
  | cons e es ih =>
      obtain ⟨n₁, k₁, ranked₁, less⟩ := advances n k s e ranked
      obtain ⟨n₂, k₂, ranked₂, le⟩ := ih ranked₁
      refine ⟨n₂, k₂, ranked₂, Nat.le_trans le ?_⟩
      rcases less with less | ⟨same, -⟩
      · exact Nat.le_of_lt less
      · exact Nat.le_of_eq same

theorem Advances.moved (advances : Advances step party rank) (ranked : rank n k s) {es : List ε}
    (moves : ∃ e ∈ es, party e = k) :
    ∃ n' k', rank n' k' (Lib.run step s es) ∧ (n' < n ∨ n' = 0) := by
  induction es generalizing s with
  | nil =>
      obtain ⟨e, member, -⟩ := moves
      cases member
  | cons e es ih =>
      obtain ⟨n₁, k₁, ranked₁, less | ⟨same, last | ⟨waits, other⟩⟩⟩ := advances n k s e ranked
      · obtain ⟨n₂, k₂, ranked₂, le⟩ := advances.run ranked₁ es
        exact ⟨n₂, k₂, ranked₂, .inl (Nat.lt_of_le_of_lt le less)⟩
      · obtain ⟨n₂, k₂, ranked₂, le⟩ := advances.run ranked₁ es
        have spent : n₁ = 0 := same.trans last
        exact ⟨n₂, k₂, ranked₂, .inr (Nat.le_zero.mp (spent ▸ le))⟩
      · rw [same, waits] at ranked₁
        obtain ⟨e', member, mover⟩ := moves
        rcases List.mem_cons.mp member with rfl | later
        · exact absurd mover other
        · exact ih ranked₁ ⟨e', later, mover⟩

/-- As many rounds as the rank says are enough, whatever the order of the moves in a round. -/
theorem Advances.rounds (advances : Advances step party rank) (ranked : rank n k s)
    {rounds : List (List ε)} (fair : ∀ es ∈ rounds, Round party es) (enough : n ≤ rounds.length) :
    ∃ k', rank 0 k' (Lib.run step s rounds.flatten) := by
  induction rounds generalizing n k s with
  | nil =>
      obtain rfl : n = 0 := Nat.le_zero.mp enough
      exact ⟨k, ranked⟩
  | cons es rounds ih =>
      obtain ⟨n₁, k₁, ranked₁, less⟩ := advances.moved ranked (fair es List.mem_cons_self k)
      have later (es' : List ε) (member : es' ∈ rounds) : Round party es' :=
        fair es' (List.mem_cons_of_mem es member)
      rw [List.flatten_cons, run_append]
      refine ih ranked₁ later ?_
      rw [List.length_cons] at enough
      omega

end Rounds

namespace Prog
variable {Op : Type} {Res : Op → Type} {α σ ε : Type} (exec : (o : Op) → σ → Res o × σ)
  (other : σ → ε → σ)

/-- The program has `n` operations left. Before each of them `J` holds and the rest of the system
has to wait, and `Q` holds of what it returns and of the state it returns in. -/
def Underway (J : σ → Prop) (Q : α → σ → Prop) : Nat → Prog Op Res α → σ → Prop
  | 0, .ret a, s => Q a s
  | n + 1, .op o next, s =>
      J s ∧ (∀ e, other s e = s) ∧ Underway J Q n (next (exec o s).1) (exec o s).2
  | 0, .op _ _, _ => False
  | _ + 1, .ret _, _ => False

variable {exec other} {J : σ → Prop} {Q : α → σ → Prop} {n : Nat} {p : Prog Op Res α} {s : σ}

theorem underway_zero : Underway exec other J Q 0 p s ↔ ∃ a, p = .ret a ∧ Q a s := by
  constructor
  · intro underway
    cases p with
    | ret a => exact ⟨a, rfl, underway⟩
    | op o next => exact absurd underway id
  · rintro ⟨a, rfl, holds⟩
    exact holds

theorem underway_succ : Underway exec other J Q (n + 1) p s ↔
    J s ∧ (∀ e, other s e = s) ∧ (∃ o next, p = .op o next) ∧
      Underway exec other J Q n (advance exec (p, s)).1 (advance exec (p, s)).2 := by
  constructor
  · intro underway
    cases p with
    | ret a => exact absurd underway id
    | op o next => exact ⟨underway.1, underway.2.1, ⟨o, next, rfl⟩, underway.2.2⟩
  · rintro ⟨holds, waits, ⟨o, next, rfl⟩, later⟩
    exact ⟨holds, waits, later⟩

/-- What a program does that holds the rest of the system is what it does alone. -/
theorem underway_of_held (held : Held exec other p s) (within : Within n p)
    (holds : Q (p.finish exec s).1 (p.finish exec s).2) :
    ∃ m ≤ n, Underway exec other (fun _ => True) Q m p s := by
  induction p generalizing n s with
  | ret a => exact ⟨0, Nat.zero_le n, holds⟩
  | op o next ih =>
      cases n with
      | zero => exact absurd within id
      | succ n =>
          obtain ⟨m, le, underway⟩ := ih (exec o s).1 held.2 (within _) holds
          exact ⟨m + 1, Nat.succ_le_succ le, trivial, held.1, underway⟩

theorem held_of_atomic (atomic : Atomic exec other p s) (waits : ∀ e, other s e = s) :
    Held exec other p s := by
  cases p with
  | ret a => trivial
  | op o next =>
      rcases atomic with ⟨a, last⟩ | held
      · refine ⟨waits, ?_⟩
        rw [last]
        trivial
      · exact held

end Prog
end PassingLink.Lib
