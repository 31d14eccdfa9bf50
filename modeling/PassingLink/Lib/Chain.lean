import Mathlib.Data.List.Basic
import Mathlib.Logic.Function.Basic

/-! Chains of nodes that are linked by the pointers the nodes hold. -/
namespace PassingLink.Lib

variable {ι : Type*} {next next' : ι → Option ι} {chain : List ι}

/-- The nodes that one meets from the first one on, up to a node without a next one. -/
def Linked (next : ι → Option ι) : List ι → Prop
  | [] => True
  | i :: rest => next i = rest.head? ∧ Linked next rest

theorem Linked.congr (linked : Linked next chain) (same : ∀ i ∈ chain, next' i = next i) :
    Linked next' chain := by
  induction chain with
  | nil => trivial
  | cons i chain ih =>
      constructor
      · exact (same i List.mem_cons_self).trans linked.1
      · exact ih linked.2 fun j member => same j (List.mem_cons_of_mem i member)

theorem Linked.drop {played rest : List ι} (linked : Linked next (played ++ rest)) :
    Linked next rest := by
  induction played with
  | nil => exact linked
  | cons i played ih => exact ih linked.2

theorem Linked.next_of_split {played rest : List ι} {i : ι}
    (linked : Linked next (played ++ i :: rest)) : next i = rest.head? := linked.drop.1

/-- So many nodes at most from a pointer on. -/
def follow (next : ι → Option ι) : Nat → Option ι → List ι
  | 0, _ => []
  | _ + 1, none => []
  | left + 1, some i => i :: follow next left (next i)

theorem Linked.follow (linked : Linked next chain) {left : Nat} (enough : chain.length ≤ left) :
    follow next left chain.head? = chain := by
  induction chain generalizing left with
  | nil =>
      cases left with
      | zero => rfl
      | succ left => rfl
  | cons i chain ih =>
      cases left with
      | zero => exact absurd enough (Nat.not_succ_le_zero _)
      | succ left =>
          simp only [List.head?_cons, Lib.follow, linked.1]
          rw [ih linked.2 (Nat.le_of_succ_le_succ enough)]

section Append
variable [DecidableEq ι]

/-- A node is linked behind the last one of a chain that it is not part of. -/
theorem Linked.append {played : List ι} {last new : ι} (linked : Linked next (played ++ [last]))
    (distinct : (played ++ [last]).Nodup) (fresh : new ∉ played ++ [last]) :
    Linked (Function.update (Function.update next last (some new)) new none)
      (played ++ [last, new]) := by
  induction played with
  | nil =>
      have differs : last ≠ new := fun same => fresh (same ▸ List.mem_singleton_self last)
      refine ⟨?_, ?_, trivial⟩
      · rw [Function.update_of_ne differs, Function.update_self]
        rfl
      · rw [Function.update_self]
        rfl
  | cons i played ih =>
      rw [List.cons_append, List.nodup_cons] at distinct
      rw [List.cons_append, List.mem_cons, not_or] at fresh
      constructor
      · have notLast : i ≠ last := by
          intro same
          apply distinct.1
          rw [same]
          exact List.mem_append_right played (List.mem_singleton_self last)
        rw [Function.update_of_ne (Ne.symm fresh.1), Function.update_of_ne notLast, linked.1]
        cases played with
        | nil => rfl
        | cons j played => rfl
      · exact ih linked.2 distinct.2 fresh.2

end Append

end PassingLink.Lib
