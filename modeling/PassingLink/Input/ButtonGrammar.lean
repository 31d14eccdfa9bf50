import Mathlib.Data.List.Nodup
import Mathlib.Data.List.Pairwise
import PassingLink.Input.Shell

/-! The grammar of the arguments of `input modify`. -/
namespace PassingLink.Input
open Lib

/-- The full name of an input, or the name of a button or a stick without its first part. -/
def Names (arg : List Char) (g : Gpio) : Prop :=
  arg = g.name.toList ∨ "button_".toList ++ arg = g.name.toList ∨
    "stick_".toList ++ arg = g.name.toList

/-- An argument that names an input sets it and leaves the others, and any other argument is
refused; no comparison is made with a null pointer. -/
def Grammatical (state : RawInputState) (arg : List Char) : Prop :=
  match parseButton state arg with
  | .parsed state' =>
      ∃ g, Names (signed arg).2 g ∧ (∀ g', Names (signed arg).2 g' → g' = g) ∧
        state' g = (signed arg).1 ∧ ∀ other, other ≠ g → state' other = state other
  | .failed => ∀ g, ¬ Names (signed arg).2 g
  | .fault => False

/-! ### Names and their short forms -/

theorem drop_eq_iff {start name short : List Char} (begins : start.isPrefixOf name = true) :
    name.drop start.length = short ↔ start ++ short = name := by
  obtain ⟨rest, rfl⟩ := List.isPrefixOf_iff_prefix.mp begins
  rw [List.drop_left, List.append_cancel_left_eq, eq_comm]

theorem isPrefixOf_append (start short : List Char) :
    start.isPrefixOf (start ++ short) = true :=
  List.isPrefixOf_iff_prefix.mpr (List.prefix_append start short)

theorem shorten_eq_some_iff {name short : List Char} :
    shorten name = some short ↔
      "button_".toList ++ short = name ∨ "stick_".toList ++ short = name := by
  unfold shorten
  by_cases button : "button_".toList.isPrefixOf name = true
  · rw [if_pos button, Option.some_inj, ← String.length_toList, drop_eq_iff button]
    constructor
    · exact Or.inl
    · rintro (is | is)
      · exact is
      · rw [← is] at button
        cases button
  · rw [if_neg button]
    have other : ¬ "button_".toList ++ short = name := by
      rintro rfl
      exact button (isPrefixOf_append _ short)
    by_cases stick : "stick_".toList.isPrefixOf name = true
    · rw [if_pos stick, Option.some_inj, ← String.length_toList, drop_eq_iff stick,
        or_iff_right other]
    · rw [if_neg stick]
      apply iff_of_false (fun none_some => by cases none_some)
      rintro (is | rfl)
      · exact other is
      · exact stick (isPrefixOf_append _ short)

theorem spells_iff {arg : List Char} {g : Gpio} : spells arg g = true ↔ Names arg g := by
  rw [spells, decide_eq_true_iff, shorten_eq_some_iff]
  rfl

def spellings (g : Gpio) : List (List Char) := g.name.toList :: (shorten g.name.toList).toList

theorem mem_spellings {arg : List Char} {g : Gpio} (names : Names arg g) : arg ∈ spellings g := by
  rcases of_decide_eq_true (spells_iff.mpr names) with full | short
  · rw [full]
    exact List.mem_cons_self
  · apply List.mem_cons_of_mem
    rw [short]
    exact List.mem_singleton_self arg

/-- No spelling is one of two inputs. -/
theorem nodup_spellings : (Gpio.all.flatMap spellings).Nodup := by
  decide +kernel

theorem names_unique {arg : List Char} {g g' : Gpio} (first : Names arg g)
    (second : Names arg g') : g' = g := by
  by_contra other
  have apart := (List.nodup_flatMap.mp nodup_spellings).2
  have symm : Std.Symm (Function.onFun List.Disjoint spellings) :=
    ⟨fun _ _ disjoint => disjoint.symm⟩
  have disjoint := apart.forall g.mem_all g'.mem_all (Ne.symm other)
  exact disjoint (mem_spellings first) (mem_spellings second)

/-- An argument is treated as the grammar says exactly if it spells an input in front of
`mode_ps3`: what is still compared after `mode_lock` is compared with a null pointer. -/
theorem button_grammar_iff (state : RawInputState) (arg : List Char) :
    Grammatical state arg ↔ Known arg := by
  unfold Grammatical
  by_cases known : Known arg
  · apply iff_of_true _ known
    obtain ⟨g, is, parse⟩ := parseButton_known known
    rw [parse]
    have names : Names (signed arg).2 g := spells_iff.mp (List.find?_some is)
    refine ⟨g, names, fun g' => names_unique names, Function.update_self g _ state, ?_⟩
    intro other differs
    exact Function.update_of_ne differs _ state
  · apply iff_of_false _ known
    rw [parseButton_unknown known]
    exact id

/-- `mode_ps3` is the name of an input. -/
theorem mode_ps3_faults : ¬ ∀ state arg, Grammatical state arg := by
  intro all
  have fails := all RawInputState.released "mode_ps3".toList
  have faults : parseButton RawInputState.released "mode_ps3".toList = .fault := rfl
  rw [Grammatical, faults] at fails
  exact fails

end PassingLink.Input
