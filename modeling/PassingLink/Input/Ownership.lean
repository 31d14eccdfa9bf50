import Mathlib.Data.Fintype.Card
import PassingLink.Lib.Runs
import PassingLink.Input.QueueStorage

/-! Which nodes of the storage belong to which chain, over any run of the calls into
`queue.cpp` whose callers keep to the chains that they own. -/
namespace PassingLink.Input
open Lib

/-! ### The callers -/

inductive QueueCall where
  | alloc
  | append (head : NodeRef)
  | fill (r : NodeRef) (state : RawInputState) (delay : Nat)
  | free (p : Option NodeRef)
  | setActive (queue : Option NodeRef) (consume : Bool) (now : Nat)
  | getState (now : Nat)

def QueueCall.takesNode : QueueCall → Bool
  | .alloc | .append _ => true
  | _ => false

theorem QueueCall.takesNode_of_either {call : QueueCall}
    (either : call = .alloc ∨ ∃ head, call = .append head) : call.takesNode = true := by
  rcases either with alloc | ⟨head, append⟩
  · rw [alloc]
    rfl
  · rw [append]
    rfl

/-- The queue with the chains that its callers own, and the one handed over to it. -/
structure Owned where
  queue : Queue
  owned : List (List NodeRef)
  consumed : List NodeRef

def Owned.boot : Owned := ⟨Queue.boot, [], []⟩

def Owned.live (s : Owned) : List (List NodeRef) := s.consumed :: s.owned

def grow (head tail : NodeRef) (chain : List NodeRef) : List NodeRef :=
  if chain.getLast? = some head then chain ++ [tail] else chain

/-- The chain that starts with the node. -/
def chainAt (owned : List (List NodeRef)) (p : Option NodeRef) : List NodeRef :=
  (owned.find? fun chain => chain.head? = p).getD []

def others (owned : List (List NodeRef)) (p : Option NodeRef) : List (List NodeRef) :=
  owned.filter fun chain => chain.head? ≠ p

def Owned.step (s : Owned) : QueueCall → Owned
  | .alloc =>
      let (result, queue) := inputQueueAlloc s.queue
      { s with queue, owned := (result.map fun r => [r]).toList ++ s.owned }
  | .append head =>
      let (result, queue) := inputQueueAppend s.queue head
      match result with
      | none => { s with queue }
      | some tail => { s with queue, owned := s.owned.map (grow head tail) }
  | .fill r state delay => { s with queue := s.queue.fill r state delay }
  | .free p => { s with queue := inputQueueFree s.queue p, owned := others s.owned p }
  | .setActive p consume now =>
      { queue := inputQueueSetActive s.queue p consume now
        owned := if consume then others s.owned p else s.owned
        consumed := if consume then chainAt s.owned p else [] }
  | .getState now =>
      let queue := (inputQueueGetState s.queue now).2
      { s with queue, consumed := if queue.next = none then [] else s.consumed }

/-- Callers append at the tail of, free, fill and activate only chains that they own. -/
def Owned.Owns (s : Owned) : QueueCall → Prop
  | .append head => ∃ chain ∈ s.owned, chain.getLast? = some head
  | .fill r _ _ => ∃ chain ∈ s.owned, r ∈ chain
  | .free (some p) | .setActive (some p) _ _ => ∃ chain ∈ s.owned, chain.head? = some p
  | _ => True

/-- A chain is not freed while the queue plays it. -/
def Owned.Spares (s : Owned) : QueueCall → Prop
  | .free p => ∀ r ∈ chainAt s.owned p, s.queue.next ≠ some r
  | _ => True

def Owned.Legal (s : Owned) (call : QueueCall) : Prop := s.Owns call ∧ s.Spares call

structure Owned.Sound (s : Owned) : Prop where
  linked : ∀ chain ∈ s.live, Linked s.queue.link chain
  nonempty : [] ∉ s.owned
  distinct : s.live.flatten.Nodup
  used_iff : ∀ r, s.queue.used r = true ↔ r ∈ s.live.flatten
  hinted : s.queue.Hinted
  freeHead : s.queue.nextFreeHead = s.consumed.head?
  playing : ∀ r, s.queue.next = some r → ∃ chain ∈ s.live, ∃ played rest,
    chain = played ++ r :: rest ∧ (s.consumed ≠ [] → chain = s.consumed)
  idle : s.queue.next = none → s.consumed = []
  ends : s.queue.hung = false

/-! ### The chain that a call is about -/

section Chains
variable {owned before after : List (List NodeRef)} {chain consumed : List NodeRef}
  {head tail p : NodeRef}

theorem perm_of_split (same : owned = before ++ chain :: after) (consumed : List NodeRef) :
    (consumed :: owned).flatten.Perm (chain ++ (consumed :: (before ++ after)).flatten) := by
  rw [same, List.flatten_cons, List.flatten_cons]
  have middle : (before ++ chain :: after).flatten.Perm (chain ++ (before ++ after).flatten) :=
    List.perm_middle.flatten
  exact (middle.append_left consumed).trans (List.perm_append_comm_assoc _ _ _)

/-- No other chain of the list has a node of this one. -/
theorem apart_of_split (distinct : owned.flatten.Nodup) (same : owned = before ++ chain :: after)
    {other : List NodeRef} (member : other ∈ before ∨ other ∈ after) {r : NodeRef}
    (inside : r ∈ chain) : r ∉ other := by
  have perm := perm_of_split same []
  rw [List.flatten_cons, List.nil_append] at perm
  have apart := List.disjoint_of_nodup_append (perm.nodup_iff.mp distinct)
  intro there
  apply apart inside
  rw [List.flatten_cons, List.nil_append]
  exact List.mem_flatten.mpr ⟨other, List.mem_append.mpr member, there⟩

theorem mem_of_split (same : owned = before ++ chain :: after) {other : List NodeRef}
    (there : other ∈ before ++ after) : other ∈ owned := by
  rw [same]
  rcases List.mem_append.mp there with left | right
  · exact List.mem_append_left _ left
  · exact List.mem_append_right _ (List.mem_cons_of_mem _ right)

theorem grow_split (distinct : owned.flatten.Nodup) (member : chain ∈ owned)
    (last : chain.getLast? = some head) (tail : NodeRef) :
    ∃ before after, owned = before ++ chain :: after ∧
      owned.map (grow head tail) = before ++ (chain ++ [tail]) :: after := by
  obtain ⟨before, after, same⟩ := List.append_of_mem member
  have keeps (other : List NodeRef) (there : other ∈ before ∨ other ∈ after) :
      grow head tail other = other := by
    apply if_neg
    intro last'
    exact apart_of_split distinct same there (List.mem_of_getLast? last)
      (List.mem_of_getLast? last')
  refine ⟨before, after, same, ?_⟩
  rw [same, List.map_append, List.map_cons]
  have grown : grow head tail chain = chain ++ [tail] := if_pos last
  rw [grown, List.map_congr_left fun other there => keeps other (Or.inl there),
    List.map_congr_left fun other there => keeps other (Or.inr there), List.map_id', List.map_id']

theorem others_split (distinct : owned.flatten.Nodup) (member : chain ∈ owned)
    (start : chain.head? = some p) :
    ∃ before after, owned = before ++ chain :: after ∧ others owned (some p) = before ++ after ∧
      chainAt owned (some p) = chain := by
  obtain ⟨before, after, same⟩ := List.append_of_mem member
  have differs (other : List NodeRef) (there : other ∈ before ∨ other ∈ after) :
      other.head? ≠ some p := by
    intro start'
    exact apart_of_split distinct same there (List.mem_of_head? start) (List.mem_of_head? start')
  refine ⟨before, after, same, ?_, ?_⟩
  · unfold others
    have dropped : decide (chain.head? ≠ some p) = false := decide_eq_false fun other => other start
    rw [same, List.filter_append, List.filter_cons, dropped, if_neg Bool.false_ne_true]
    congr 1
    · apply List.filter_eq_self.mpr
      intro other there
      exact decide_eq_true (differs other (Or.inl there))
    · apply List.filter_eq_self.mpr
      intro other there
      exact decide_eq_true (differs other (Or.inr there))
  · unfold chainAt
    have skipped : before.find? (fun chain => chain.head? = some p) = none := by
      apply List.find?_eq_none.mpr
      intro other there found
      exact differs other (Or.inl there) (of_decide_eq_true found)
    rw [same, List.find?_append, skipped, Option.none_or, List.find?_cons, decide_eq_true start,
      Option.getD_some]

theorem others_none (nonempty : [] ∉ owned) :
    others owned none = owned ∧ chainAt owned none = [] := by
  have differs (other : List NodeRef) (there : other ∈ owned) : other.head? ≠ none := by
    intro nothing
    rw [List.head?_eq_none_iff.mp nothing] at there
    exact nonempty there
  constructor
  · apply List.filter_eq_self.mpr
    intro other there
    exact decide_eq_true (differs other there)
  · unfold chainAt
    have missing : owned.find? (fun chain => chain.head? = none) = none := by
      apply List.find?_eq_none.mpr
      intro other there found
      exact differs other there (of_decide_eq_true found)
    rw [missing, Option.getD_none]

end Chains

/-! ### What every call keeps up -/

namespace Owned
variable {s : Owned}

section Taken
variable {live : List (List NodeRef)} {i : NodeRef}

theorem Sound.unused_outside (sound : s.Sound) (unused : s.queue.used i = false) :
    i ∉ s.live.flatten := by
  intro inside
  have used := (sound.used_iff i).mpr inside
  rw [unused] at used
  cases used

theorem Sound.link_unused (sound : s.Sound) (unused : s.queue.used i = false) :
    ∀ chain ∈ s.live, i ∉ chain := by
  intro chain member inside
  exact sound.unused_outside unused (List.mem_flatten.mpr ⟨chain, member, inside⟩)

theorem Sound.taken_distinct (sound : s.Sound) (unused : s.queue.used i = false)
    (perm : live.flatten.Perm (i :: s.live.flatten)) : live.flatten.Nodup := by
  apply perm.nodup_iff.mpr
  exact List.nodup_cons.mpr ⟨sound.unused_outside unused, sound.distinct⟩

theorem Sound.taken_used_iff (sound : s.Sound) (perm : live.flatten.Perm (i :: s.live.flatten))
    (r : NodeRef) : (s.queue.taken i).used r = true ↔ r ∈ live.flatten := by
  rw [used_taken, perm.mem_iff, List.mem_cons]
  split
  · rename_i same
    exact iff_of_true rfl (Or.inl same)
  · rename_i other
    rw [sound.used_iff r]
    exact ⟨Or.inr, fun either => either.resolve_left other⟩

end Taken

theorem Sound.owned_distinct (sound : s.Sound) : s.owned.flatten.Nodup :=
  (List.nodup_append.mp sound.distinct).2.1

theorem sound_boot : Owned.boot.Sound := by
  constructor
  · intro chain member
    rw [List.mem_singleton.mp member]
    trivial
  · exact List.not_mem_nil
  · exact List.nodup_nil
  · intro r
    apply iff_of_false
    · rw [Queue.used, Owned.boot, Queue.boot, Bitmap.get_empty]
      exact Bool.false_ne_true
    · exact List.not_mem_nil
  · intro r below
    exact absurd below (Nat.not_lt_zero _)
  · rfl
  · intro r playing
    cases playing
  · intro _
    rfl
  · rfl

theorem sound_alloc (sound : s.Sound) : (s.step .alloc).Sound := by
  rcases alloc_cases sound.hinted with ⟨full, -⟩ | ⟨i, taken, unused, before⟩
  · simp only [Owned.step, full, Option.map_none, Option.toList_none, List.nil_append]
    exact sound
  · have fresh := sound.link_unused unused
    have moved : (s.consumed :: [i] :: s.owned).flatten.Perm (i :: s.live.flatten) :=
      List.perm_middle
    simp only [Owned.step, taken, Option.map_some, Option.toList_some, List.singleton_append]
    have link : (s.queue.taken i).link = Function.update s.queue.link i none :=
      link_setNext _ i none
    have old {chain : List NodeRef} (there : chain ∈ s.live) :
        Linked (s.queue.taken i).link chain := by
      apply (sound.linked chain there).congr
      intro r inside
      have other : r ≠ i := by
        intro same
        rw [same] at inside
        exact fresh chain there inside
      rw [link, Function.update_of_ne other]
    constructor
    · intro chain member
      rcases List.mem_cons.mp member with first | member
      · exact old (first ▸ List.mem_cons_self)
      rcases List.mem_cons.mp member with new | member
      · rw [new]
        refine ⟨?_, trivial⟩
        rw [link, Function.update_self]
        rfl
      · exact old (List.mem_cons_of_mem _ member)
    · intro member
      rcases List.mem_cons.mp member with new | member
      · cases new
      · exact sound.nonempty member
    · exact sound.taken_distinct unused moved
    · exact sound.taken_used_iff moved
    · exact hinted_taken before
    · exact sound.freeHead
    · intro r playing
      obtain ⟨chain, member, split⟩ := sound.playing r playing
      refine ⟨chain, ?_, split⟩
      rcases List.mem_cons.mp member with first | member
      · exact first ▸ List.mem_cons_self
      · exact List.mem_cons_of_mem _ (List.mem_cons_of_mem _ member)
    · exact sound.idle
    · exact sound.ends

theorem sound_fill (sound : s.Sound) (r : NodeRef) (state : RawInputState) (delay : Nat) :
    (s.step (.fill r state delay)).Sound := by
  obtain ⟨linked, nonempty, distinct, used_iff, hinted, freeHead, playing, idle, ends⟩ := sound
  constructor
  · intro chain member
    simp only [Owned.step]
    rw [link_fill]
    exact linked chain member
  · exact nonempty
  · exact distinct
  · exact used_iff
  · exact hinted
  · exact freeHead
  · exact playing
  · exact idle
  · exact ends

theorem append_eq {q : Queue} (head : NodeRef) :
    inputQueueAppend q head =
      match inputQueueAlloc q with
      | (none, q) => (none, q)
      | (some tail, q) => (some tail, (q.setNext head (some tail)).setNext tail none) := rfl

theorem link_append (q : Queue) (head tail : NodeRef) :
    (((q.taken tail).setNext head (some tail)).setNext tail none).link =
      Function.update (Function.update q.link head (some tail)) tail none := by
  rw [link_setNext, link_setNext, Queue.taken, link_setNext]
  funext r
  by_cases atTail : r = tail
  · rw [atTail, Function.update_self, Function.update_self]
  · rw [Function.update_of_ne atTail, Function.update_of_ne atTail]
    by_cases atHead : r = head
    · rw [atHead, Function.update_self, Function.update_self]
    · rw [Function.update_of_ne atHead, Function.update_of_ne atHead,
        Function.update_of_ne atTail]
      rfl

theorem linked_elsewhere {link : NodeRef → Option NodeRef} {other : List NodeRef}
    {head tail : NodeRef} (linked : Linked link other) (noHead : head ∉ other)
    (noTail : tail ∉ other) (next next' : Option NodeRef) :
    Linked (Function.update (Function.update link head next) tail next') other := by
  apply linked.congr
  intro r inside
  have notTail : r ≠ tail := fun same => noTail (same ▸ inside)
  have notHead : r ≠ head := fun same => noHead (same ▸ inside)
  rw [Function.update_of_ne notTail, Function.update_of_ne notHead]

section Append
variable {head tail : NodeRef} {chain : List NodeRef} {front after : List (List NodeRef)}

/-- The node at which the chain grows is on no other live chain. -/
theorem Sound.apart_live (sound : s.Sound) (same : s.owned = front ++ chain :: after)
    {r : NodeRef} (inside : r ∈ chain) {other : List NodeRef}
    (there : other = s.consumed ∨ other ∈ front ∨ other ∈ after) : r ∉ other := by
  cases there with
  | inl consumed =>
      rw [consumed]
      intro inside'
      have disjoint := List.disjoint_of_nodup_append sound.distinct
      have member : chain ∈ s.owned := same ▸ List.mem_append_right _ List.mem_cons_self
      exact disjoint inside' (List.mem_flatten.mpr ⟨chain, member, inside⟩)
  | inr there => exact apart_of_split sound.owned_distinct same there inside

theorem append_linked (sound : s.Sound) (same : s.owned = front ++ chain :: after)
    (last : chain.getLast? = some head) (fresh : ∀ other ∈ s.live, tail ∉ other) :
    ∀ other ∈ s.consumed :: (front ++ (chain ++ [tail]) :: after),
      Linked (Function.update (Function.update s.queue.link head (some tail)) tail none) other := by
  have old {other : List NodeRef} (there : other = s.consumed ∨ other ∈ front ∨ other ∈ after)
      (live : other ∈ s.live) :
      Linked (Function.update (Function.update s.queue.link head (some tail)) tail none) other :=
    linked_elsewhere (sound.linked other live)
      (sound.apart_live same (List.mem_of_getLast? last) there) (fresh other live) _ _
  intro other there
  rcases List.mem_cons.mp there with first | there
  · rw [first]
    exact old (.inl rfl) List.mem_cons_self
  rcases List.mem_append.mp there with left | there
  · apply old (.inr (.inl left))
    exact List.mem_cons_of_mem _ (same ▸ List.mem_append_left _ left)
  rcases List.mem_cons.mp there with this | right
  · have live : chain ∈ s.live :=
      List.mem_cons_of_mem _ (same ▸ List.mem_append_right _ List.mem_cons_self)
    have single := (List.nodup_flatten.mp sound.distinct).1 chain live
    have before := sound.linked chain live
    have new := fresh chain live
    obtain ⟨played, rfl⟩ := List.getLast?_eq_some_iff.mp last
    rw [this, List.append_assoc]
    exact before.append single new
  · apply old (.inr (.inr right))
    exact List.mem_cons_of_mem _
      (same ▸ List.mem_append_right _ (List.mem_cons_of_mem _ right))

/-- A chain that is played while it grows is played on its grown self. -/
theorem append_playing (sound : s.Sound) (same : s.owned = front ++ chain :: after)
    (inside : head ∈ chain) {r : NodeRef} (next : s.queue.next = some r) :
    ∃ other ∈ s.consumed :: (front ++ (chain ++ [tail]) :: after), ∃ played rest,
      other = played ++ r :: rest ∧ (s.consumed ≠ [] → other = s.consumed) := by
  obtain ⟨other, there, played, rest, split, consumed⟩ := sound.playing r next
  rcases List.mem_cons.mp there with first | there
  · exact ⟨other, first ▸ List.mem_cons_self, played, rest, split, consumed⟩
  rw [same] at there
  rcases List.mem_append.mp there with left | there
  · refine ⟨other, ?_, played, rest, split, consumed⟩
    exact List.mem_cons_of_mem _ (List.mem_append_left _ left)
  rcases List.mem_cons.mp there with this | right
  · refine ⟨chain ++ [tail], ?_, played, rest ++ [tail], ?_, ?_⟩
    · exact List.mem_cons_of_mem _ (List.mem_append_right _ List.mem_cons_self)
    · rw [← this, split, List.append_assoc, List.cons_append]
    · intro begun
      rw [this] at consumed
      exact absurd (consumed begun ▸ inside) (sound.apart_live same inside (.inl rfl))
  · refine ⟨other, ?_, played, rest, split, consumed⟩
    exact List.mem_cons_of_mem _ (List.mem_append_right _ (List.mem_cons_of_mem _ right))

end Append

/-- Appending links an unused node behind the last one of an owned chain. -/
theorem sound_append (sound : s.Sound) {head : NodeRef} (owns : s.Owns (.append head)) :
    (s.step (.append head)).Sound := by
  obtain ⟨chain, member, last⟩ := owns
  rcases alloc_cases sound.hinted with ⟨full, -⟩ | ⟨tail, taken, unused, before⟩
  · simp only [Owned.step, append_eq, full]
    exact sound
  · have fresh := sound.link_unused unused
    obtain ⟨front, after, same, grown⟩ := grow_split sound.owned_distinct member last tail
    have headIn : head ∈ chain := List.mem_of_getLast? last
    have perm : (s.consumed :: (front ++ (chain ++ [tail]) :: after)).flatten.Perm
        (tail :: s.live.flatten) := by
      apply (perm_of_split rfl s.consumed).trans
      rw [List.append_assoc]
      exact List.perm_middle.trans ((perm_of_split same s.consumed).symm.cons tail)
    simp only [Owned.step, append_eq, taken, grown]
    constructor
    · intro other there
      rw [link_append]
      exact append_linked sound same last fresh other there
    · intro there
      apply sound.nonempty
      apply mem_of_split same
      rcases List.mem_append.mp there with left | there
      · exact List.mem_append_left _ left
      rcases List.mem_cons.mp there with this | right
      · exact absurd this.symm (List.append_ne_nil_of_right_ne_nil chain (List.cons_ne_nil tail []))
      · exact List.mem_append_right _ right
    · exact sound.taken_distinct unused perm
    · exact sound.taken_used_iff perm
    · exact hinted_taken before
    · exact sound.freeHead
    · intro r next
      exact append_playing sound same headIn next
    · exact sound.idle
    · exact sound.ends

/-! What is left after some chain of the live ones has been freed. -/

theorem Sound.freed_used (sound : s.Sound) {q : Queue} {chain : List NodeRef}
    {rest : List (List NodeRef)}
    (freed : ∀ r, q.used r = true ↔ s.queue.used r = true ∧ r ∉ chain)
    (perm : s.live.flatten.Perm (chain ++ rest.flatten)) (r : NodeRef) :
    q.used r = true ↔ r ∈ rest.flatten := by
  have apart := List.disjoint_of_nodup_append (perm.nodup_iff.mp sound.distinct)
  rw [freed, sound.used_iff, perm.mem_iff, List.mem_append]
  constructor
  · intro both
    exact both.1.resolve_left both.2
  · intro inside
    exact ⟨Or.inr inside, fun freed => apart freed inside⟩

theorem sound_free (sound : s.Sound) {p : Option NodeRef} (legal : s.Legal (.free p)) :
    (s.step (.free p)).Sound := by
  cases p with
  | none =>
      simp only [Owned.step, (others_none sound.nonempty).1]
      exact sound
  | some p =>
      obtain ⟨⟨chain, member, start⟩, spares⟩ := legal
      obtain ⟨before, after, same, left, found⟩ := others_split sound.owned_distinct member start
      have live := List.mem_cons_of_mem s.consumed member
      have single := (List.nodup_flatten.mp sound.distinct).1 chain live
      have freed := freed_free (sound.linked chain live) single start
      have perm : s.live.flatten.Perm (chain ++ (s.consumed :: (before ++ after)).flatten) :=
        perm_of_split same s.consumed
      have kept {other : List NodeRef} (there : other ∈ before ++ after) : other ∈ s.owned :=
        mem_of_split same there
      have subset {other : List NodeRef} (there : other ∈ s.consumed :: (before ++ after)) :
          other ∈ s.live := by
        rcases List.mem_cons.mp there with first | there
        · exact first ▸ List.mem_cons_self
        · exact List.mem_cons_of_mem _ (kept there)
      simp only [Owned.step, left]
      have used_iff := sound.freed_used freed.used_iff perm
      have link := freed.link
      have hinted := freed.hinted sound.hinted
      obtain ⟨storageBitmap, storageLastAvail, same'⟩ := freed.same
      constructor
      · intro other there
        rw [link]
        exact sound.linked other (subset there)
      · intro there
        exact sound.nonempty (kept there)
      · exact (List.nodup_append.mp (perm.nodup_iff.mp sound.distinct)).2.1
      · exact used_iff
      · exact hinted
      · rw [same']
        exact sound.freeHead
      · intro r next
        rw [same'] at next
        obtain ⟨other, there, played, rest, split, consumed⟩ := sound.playing r next
        refine ⟨other, ?_, played, rest, split, consumed⟩
        rcases List.mem_cons.mp there with first | there
        · exact first ▸ List.mem_cons_self
        apply List.mem_cons_of_mem
        rw [same] at there
        rcases List.mem_append.mp there with left | there
        · exact List.mem_append_left _ left
        rcases List.mem_cons.mp there with this | right
        · have inside : r ∈ chainAt s.owned (some p) := by
            rw [found, ← this, split]
            exact List.mem_append_right _ List.mem_cons_self
          exact absurd next (spares r inside)
        · exact List.mem_append_right _ right
      · rw [same']
        exact sound.idle
      · rw [same']
        exact sound.ends

/-- The queue when the consumed chain has been given back. -/
theorem Sound.freed_consumed (sound : s.Sound) :
    Freed s.queue (inputQueueFree s.queue s.queue.nextFreeHead) s.consumed := by
  have single := (List.nodup_flatten.mp sound.distinct).1 s.consumed List.mem_cons_self
  exact freed_free (sound.linked _ List.mem_cons_self) single sound.freeHead.symm

/-- The same with the last node just played. -/
theorem Sound.freed_played (sound : s.Sound) (p : NodeRef) :
    Freed (s.queue.played p) (inputQueueFree (s.queue.played p) s.queue.nextFreeHead)
      s.consumed := by
  have single := (List.nodup_flatten.mp sound.distinct).1 s.consumed List.mem_cons_self
  exact freed_free (sound.linked _ List.mem_cons_self) single sound.freeHead.symm

/-- The chain that starts with the node, which is the empty one for a null pointer. -/
theorem Sound.chainAt_split (sound : s.Sound) {p : Option NodeRef} {consume : Bool} {now : Nat}
    (owns : s.Owns (.setActive p consume now)) :
    (chainAt s.owned p).head? = p ∧
      s.owned.flatten.Perm (chainAt s.owned p ++ (others s.owned p).flatten) ∧
      (∀ chain ∈ others s.owned p, chain ∈ s.owned) ∧
      (chainAt s.owned p = [] ∨ chainAt s.owned p ∈ s.owned) := by
  cases p with
  | none =>
      obtain ⟨rest, emptied⟩ := others_none sound.nonempty
      rw [rest, emptied]
      exact ⟨rfl, List.Perm.refl _, fun _ member => member, Or.inl rfl⟩
  | some p =>
      obtain ⟨chain, member, start⟩ := owns
      obtain ⟨before, after, split, rest, found⟩ :=
        others_split sound.owned_distinct member start
      have perm := perm_of_split split []
      rw [rest, found]
      exact ⟨start, perm, fun other there => mem_of_split split there, Or.inr member⟩

theorem sound_setActive (sound : s.Sound) {p : Option NodeRef} {consume : Bool} {now : Nat}
    (owns : s.Owns (.setActive p consume now)) : (s.step (.setActive p consume now)).Sound := by
  have freed := sound.freed_consumed
  have perm : s.live.flatten.Perm (s.consumed ++ s.owned.flatten) := List.Perm.refl _
  have used_iff := sound.freed_used freed.used_iff perm
  have link := freed.link
  have hinted := freed.hinted sound.hinted
  have owned_linked (chain : List NodeRef) (member : chain ∈ s.owned) :
      Linked (inputQueueFree s.queue s.queue.nextFreeHead).link chain := by
    rw [link]
    exact sound.linked chain (List.mem_cons_of_mem _ member)
  obtain ⟨storageBitmap, storageLastAvail, same⟩ := freed.same
  have ends : (inputQueueFree s.queue s.queue.nextFreeHead).hung = false := by
    rw [same]
    exact sound.ends
  obtain ⟨start, perm, kept, found⟩ := sound.chainAt_split owns
  have used_iff' (r : NodeRef) :
      (inputQueueSetActive s.queue p consume now).used r = true ↔ r ∈ s.owned.flatten :=
    used_iff r
  cases consume with
  | true =>
      constructor
      · intro chain member
        rcases List.mem_cons.mp member with active | member
        · rw [active]
          cases found with
          | inl none =>
              simp only [Owned.step, if_true, none]
              trivial
          | inr there => exact owned_linked _ there
        · exact owned_linked chain (kept chain member)
      · intro member
        exact sound.nonempty (kept _ member)
      · exact perm.nodup_iff.mp sound.owned_distinct
      · intro r
        exact (used_iff' r).trans perm.mem_iff
      · exact hinted
      · exact start.symm
      · intro r next
        change p = some r at next
        rw [next] at start
        obtain ⟨rest, split⟩ := List.head?_eq_some_iff.mp start
        refine ⟨chainAt s.owned p, List.mem_cons_self, [], rest, ?_, fun _ => rfl⟩
        rw [next]
        exact split
      · intro next
        change p = none at next
        rw [next] at start
        exact next ▸ List.head?_eq_none_iff.mp start
      · exact ends
  | false =>
      constructor
      · intro chain member
        rcases List.mem_cons.mp member with this | member
        · rw [this]
          trivial
        · exact owned_linked chain member
      · exact sound.nonempty
      · exact sound.owned_distinct
      · exact used_iff'
      · exact hinted
      · rfl
      · intro r next
        change p = some r at next
        rw [next] at start
        obtain ⟨rest, split⟩ := List.head?_eq_some_iff.mp start
        rw [next, split] at found
        refine ⟨r :: rest, ?_, [], rest, rfl, fun begun => absurd rfl begun⟩
        exact List.mem_cons_of_mem _ (found.resolve_left (List.cons_ne_nil r rest))
      · intro _
        rfl
      · exact ends

/-- What reading the state does: nothing, or the chain moves on to the next node, and at its
end is given back if it was handed over. -/
theorem getState_cases (s : Owned) (now : Nat) :
    (inputQueueGetState s.queue now).2 = s.queue ∨
      ∃ p, s.queue.next = some p ∧ s.queue.nextTick < now ∧
        (inputQueueGetState s.queue now).2 = s.queue.advance p := by
  unfold inputQueueGetState
  split
  · exact Or.inl rfl
  · rename_i p next
    split
    · rename_i due
      exact Or.inr ⟨p, next, due, rfl⟩
    · exact Or.inl rfl

theorem sound_getState (sound : s.Sound) (now : Nat) : (s.step (.getState now)).Sound := by
  simp only [Owned.step]
  rcases getState_cases s now with same | ⟨p, next, due, same⟩
  · rw [same]
    have consumed : (if s.queue.next = none then [] else s.consumed) = s.consumed := by
      split
      · rename_i inactive
        exact (sound.idle inactive).symm
      · rfl
    rw [consumed]
    exact sound
  · rw [same]
    obtain ⟨chain, live, played, rest, split, consumed⟩ := sound.playing p next
    have linked := sound.linked chain live
    rw [split] at linked
    have link : s.queue.link p = rest.head? := linked.next_of_split
    cases rest with
    | nil =>
        rw [advance_end link]
        have freed := sound.freed_played p
        have perm : s.live.flatten.Perm (s.consumed ++ s.owned.flatten) := List.Perm.refl _
        have used_iff := sound.freed_used freed.used_iff perm
        have hinted := freed.hinted sound.hinted
        have gone : (inputQueueFree (s.queue.played p) s.queue.nextFreeHead).next = none :=
          (free_unmoved _ _).1.trans link
        rw [if_pos gone]
        constructor
        · intro other member
          rcases List.mem_cons.mp member with this | member
          · rw [this]
            trivial
          · change Linked (inputQueueFree (s.queue.played p) s.queue.nextFreeHead).link other
            rw [freed.link]
            exact sound.linked other (List.mem_cons_of_mem _ member)
        · exact sound.nonempty
        · exact sound.owned_distinct
        · exact used_iff
        · exact hinted
        · rfl
        · intro r next
          rw [gone] at next
          cases next
        · intro _
          rfl
        · obtain ⟨storageBitmap, storageLastAvail, same⟩ := freed.same
          rw [same]
          exact sound.ends
    | cons i rest =>
        have goes : (s.queue.played p).next = some i := link
        rw [advance_next link, if_neg (by rw [goes]; exact Option.some_ne_none i)]
        obtain ⟨linked', nonempty, distinct, used_iff, hinted, freeHead, -, -, ends⟩ := sound
        constructor
        · exact linked'
        · exact nonempty
        · exact distinct
        · exact used_iff
        · exact hinted
        · exact freeHead
        · intro r next
          rw [goes] at next
          cases next
          refine ⟨chain, live, played ++ [p], rest, ?_, consumed⟩
          rw [split, List.append_assoc]
          rfl
        · intro ends
          rw [goes] at ends
          cases ends
        · exact ends

theorem sound_step (s : Owned) (call : QueueCall) (legal : s.Legal call) (sound : s.Sound) :
    (s.step call).Sound := by
  cases call with
  | alloc => exact sound_alloc sound
  | append head => exact sound_append sound legal.1
  | fill r state delay => exact sound_fill sound r state delay
  | free p => exact sound_free sound legal
  | setActive p consume now => exact sound_setActive sound legal.1
  | getState now => exact sound_getState sound now

/-! ### Runs -/

def allocated (s : Owned) : QueueCall → Option NodeRef
  | .alloc => (inputQueueAlloc s.queue).1
  | .append head => (inputQueueAppend s.queue head).1
  | _ => none

/-- The nodes that the call has to give back. -/
def released (s : Owned) : QueueCall → List NodeRef
  | .free p => chainAt s.owned p
  | .setActive _ _ _ => s.consumed
  | .getState now => if (inputQueueGetState s.queue now).2.next = none then s.consumed else []
  | _ => []

/-- A new node is not live, there is none only when all are, and exactly the nodes that are
to be given back are not in use any more. -/
structure Exact (s : Owned) (call : QueueCall) : Prop where
  fresh : ∀ r, s.allocated call = some r → r ∉ s.live.flatten
  full : call = .alloc ∨ (∃ head, call = .append head) →
    (s.allocated call = none ↔ ∀ r, r ∈ s.live.flatten)
  released_iff : ∀ r, s.queue.used r = true ∧ (s.step call).queue.used r = false ↔
    r ∈ s.released call

theorem allocated_alloc (sound : s.Sound) :
    (∀ r, (inputQueueAlloc s.queue).1 = some r → r ∉ s.live.flatten) ∧
      ((inputQueueAlloc s.queue).1 = none ↔ ∀ r, r ∈ s.live.flatten) ∧
      ∀ r, s.queue.used r = true → (inputQueueAlloc s.queue).2.used r = true := by
  rcases alloc_cases sound.hinted with ⟨full, all⟩ | ⟨i, taken, unused, -⟩
  · rw [full]
    refine ⟨?_, ?_, fun _ used => used⟩
    · intro r taken
      cases taken
    · exact iff_of_true rfl fun r => (sound.used_iff r).mp (all r)
  · have outside : i ∉ s.live.flatten := by
      intro inside
      rw [(sound.used_iff i).mpr inside] at unused
      cases unused
    rw [taken]
    refine ⟨?_, ?_, ?_⟩
    · intro r same
      cases same
      exact outside
    · exact iff_of_false (Option.some_ne_none i) fun all => outside (all i)
    · intro r used
      rw [used_taken]
      split
      · rfl
      · exact used

theorem used_append {q : Queue} (head r : NodeRef) :
    (inputQueueAppend q head).1 = (inputQueueAlloc q).1 ∧
      (inputQueueAppend q head).2.used r = (inputQueueAlloc q).2.used r := by
  rw [append_eq]
  rcases inputQueueAlloc q with ⟨_ | tail, q'⟩
  · exact ⟨rfl, rfl⟩
  · exact ⟨rfl, rfl⟩

theorem released_of_freed {q q' : Queue} {chain : List NodeRef}
    (freed : ∀ r, q'.used r = true ↔ q.used r = true ∧ r ∉ chain)
    (inUse : ∀ r ∈ chain, q.used r = true) (r : NodeRef) :
    q.used r = true ∧ q'.used r = false ↔ r ∈ chain := by
  rw [← Bool.not_eq_true, freed]
  constructor
  · intro both
    by_contra outside
    exact both.2 ⟨both.1, outside⟩
  · intro inside
    exact ⟨inUse r inside, fun both => both.2 inside⟩

theorem Sound.inUse (sound : s.Sound) {chain : List NodeRef} (live : chain ∈ s.live) (r : NodeRef)
    (inside : r ∈ chain) : s.queue.used r = true :=
  (sound.used_iff r).mpr (List.mem_flatten.mpr ⟨chain, live, inside⟩)

/-- Nothing is given back by a call that keeps every node in use. -/
theorem released_nothing {q : Queue} (more : ∀ r, s.queue.used r = true → q.used r = true)
    (r : NodeRef) : s.queue.used r = true ∧ q.used r = false ↔ r ∈ ([] : List NodeRef) := by
  apply iff_of_false
  · intro both
    rw [more r both.1] at both
    cases both.2
  · exact List.not_mem_nil

theorem Sound.released_free (sound : s.Sound) {p : Option NodeRef} (legal : s.Legal (.free p))
    (r : NodeRef) : s.queue.used r = true ∧ (s.step (.free p)).queue.used r = false ↔
      r ∈ s.released (.free p) := by
  cases p with
  | none =>
      simp only [Owned.released, (others_none sound.nonempty).2]
      exact released_nothing (fun _ used => used) r
  | some p =>
      obtain ⟨⟨chain, member, start⟩, -⟩ := legal
      obtain ⟨-, -, -, -, found⟩ := others_split sound.owned_distinct member start
      have live := List.mem_cons_of_mem s.consumed member
      have single := (List.nodup_flatten.mp sound.distinct).1 chain live
      simp only [Owned.released, found]
      have freed := freed_free (sound.linked chain live) single start
      exact released_of_freed freed.used_iff (sound.inUse live) r

theorem Sound.released_getState (sound : s.Sound) (now : Nat) (r : NodeRef) :
    s.queue.used r = true ∧ (s.step (.getState now)).queue.used r = false ↔
      r ∈ s.released (.getState now) := by
  simp only [Owned.step, Owned.released]
  rcases getState_cases s now with same | ⟨p, next, due, same⟩
  · rw [same]
    have nothing : (if s.queue.next = none then s.consumed else []) = [] := by
      split
      · rename_i inactive
        exact sound.idle inactive
      · rfl
    rw [nothing]
    exact released_nothing (fun _ used => used) r
  · rw [same]
    cases link : s.queue.link p with
    | none =>
        rw [if_pos ((advance_unmoved s.queue p).1.trans link), advance_end link]
        exact released_of_freed (sound.freed_played p).used_iff
          (sound.inUse List.mem_cons_self) r
    | some i =>
        have goes : (s.queue.played p).next ≠ none := by
          change s.queue.link p ≠ none
          rw [link]
          exact Option.some_ne_none i
        rw [advance_next link, if_neg goes]
        exact released_nothing (fun _ used => used) r

theorem exact_of_sound {call : QueueCall} (sound : s.Sound) (legal : s.Legal call) :
    s.Exact call := by
  have other (unallocated : s.allocated call = none) (differs : call.takesNode = false)
      (released_iff : ∀ r, s.queue.used r = true ∧ (s.step call).queue.used r = false ↔
        r ∈ s.released call) : s.Exact call := by
    refine ⟨?_, ?_, released_iff⟩
    · intro r allocated
      rw [unallocated] at allocated
      cases allocated
    · intro either
      rw [QueueCall.takesNode_of_either either] at differs
      cases differs
  cases call with
  | alloc =>
      obtain ⟨fresh, full, more⟩ := allocated_alloc sound
      exact ⟨fresh, fun _ => full, released_nothing more⟩
  | append head =>
      obtain ⟨fresh, full, more⟩ := allocated_alloc sound
      have same : s.allocated (.append head) = (inputQueueAlloc s.queue).1 :=
        (used_append head head).1
      have queue : (s.step (.append head)).queue = (inputQueueAppend s.queue head).2 := by
        simp only [Owned.step]
        split
        · rfl
        · rfl
      refine ⟨?_, ?_, ?_⟩
      · rw [same]
        exact fresh
      · rw [same]
        exact fun _ => full
      · rw [queue]
        apply released_nothing
        intro r used
        rw [(used_append head r).2]
        exact more r used
  | fill r state delay => exact other rfl rfl (released_nothing fun _ used => used)
  | free p => exact other rfl rfl (sound.released_free legal)
  | setActive p consume now =>
      apply other rfl rfl
      exact released_of_freed sound.freed_consumed.used_iff (sound.inUse List.mem_cons_self)
  | getState now => exact other rfl rfl (sound.released_getState now)

/-- As long as no chain is freed while it is played, the bits of the storage are the nodes of
the live chains, and every call allocates and releases exactly what it should. -/
theorem queue_ownership (calls : List QueueCall)
    (legal : Along Owned.step Owned.Legal Owned.boot calls) :
    (run Owned.step Owned.boot calls).Sound ∧ Along Owned.step Owned.Exact Owned.boot calls := by
  constructor
  · exact run_invariant_of_legal sound_step sound_boot legal
  · apply along_of_legal sound_step _ sound_boot legal
    intro s call legal sound
    exact exact_of_sound sound legal

/-- The chain [0, 1] is built, handed over and played to its end. -/
theorem queue_ownership_played :
    let calls : List QueueCall :=
      [.alloc, .append 0, .setActive (some 0) true 5, .getState 6, .getState 7]
    (run Owned.step Owned.boot calls).Sound ∧
      (run Owned.step Owned.boot calls).queue.used 0 = false ∧
      (run Owned.step Owned.boot calls).queue.used 1 = false := by
  intro calls
  have legal : Along Owned.step Owned.Legal Owned.boot calls := by
    refine ⟨⟨trivial, trivial⟩, ⟨⟨[0], ?_, rfl⟩, trivial⟩, ⟨⟨[0, 1], ?_, rfl⟩, trivial⟩,
      ⟨trivial, trivial⟩, ⟨trivial, trivial⟩, trivial⟩
    · decide
    · decide
  exact ⟨(queue_ownership calls legal).1, by decide, by decide⟩

/-- A chain that its owner has kept may be freed by it while it is played. -/
theorem played_chain_freed :
    ¬ ∀ calls, Along Owned.step Owned.Owns Owned.boot calls →
      ∀ r, (run Owned.step Owned.boot calls).queue.next = some r →
        (run Owned.step Owned.boot calls).queue.used r = true := by
  intro all
  have owns : Along Owned.step Owned.Owns Owned.boot
      [.alloc, .setActive (some 0) false 0, .free (some 0)] := by
    refine ⟨trivial, ⟨[0], ?_, rfl⟩, ⟨[0], ?_, rfl⟩, trivial⟩
    · decide
    · decide
  have used := all _ owns 0 (by decide)
  exact absurd used (by decide)

end Owned

end PassingLink.Input
