import PassingLink.Input.Playback

/-! How a caller builds a chain, node by node, while the queue plays another one: what there
is to give back when the storage runs out, and what is played when it does not. -/
namespace PassingLink.Input
open Lib

/-! ### How much of the storage is left -/

def Queue.unused (q : Queue) : Nat :=
  ((List.finRange queueStorageSize).filter fun r => !q.used r).length

section Unused
variable {s : Owned}

/-- Every node is live or unused. -/
theorem Owned.Sound.unused (sound : s.Sound) :
    s.queue.unused + s.live.flatten.length = queueStorageSize := by
  have split := List.length_eq_length_filter_add (l := List.finRange queueStorageSize)
    fun r => !s.queue.used r
  have live : ((List.finRange queueStorageSize).filter fun r => !!s.queue.used r).Perm
      s.live.flatten := by
    apply (List.perm_ext_iff_of_nodup _ sound.distinct).mpr
    · intro r
      rw [List.mem_filter, Bool.not_not, sound.used_iff r]
      exact ⟨And.right, fun inside => ⟨List.mem_finRange r, inside⟩⟩
    · exact (List.nodup_finRange _).filter _
  rw [List.length_finRange, live.length_eq] at split
  exact split.symm

theorem unused_boot : Queue.boot.unused = queueStorageSize := by
  have storage := Owned.sound_boot.unused
  have nothing : Owned.boot.live.flatten.length = 0 := rfl
  rw [nothing, Nat.add_zero] at storage
  exact storage

theorem Queue.unused_zero {q : Queue} (full : ∀ r, q.used r = true) : q.unused = 0 := by
  rw [Queue.unused, List.length_eq_zero_iff, List.filter_eq_nil_iff]
  intro r _ unused
  rw [full r] at unused
  cases unused

end Unused

/-! ### A chain under construction -/

section Head
variable {chain : List NodeRef} {rest : List (List NodeRef)}

theorem apart_of_head (distinct : (chain :: rest).flatten.Nodup) {other : List NodeRef}
    (member : other ∈ rest) {r : NodeRef} (inside : r ∈ chain) : r ∉ other := by
  have split : chain :: rest = [] ++ chain :: rest := rfl
  exact apart_of_split distinct split (Or.inr member) inside

theorem others_head (distinct : (chain :: rest).flatten.Nodup) {p : NodeRef}
    (start : chain.head? = some p) :
    others (chain :: rest) (some p) = rest ∧ chainAt (chain :: rest) (some p) = chain := by
  constructor
  · unfold others
    rw [List.filter_cons, decide_eq_false fun other => other start, if_neg Bool.false_ne_true]
    apply List.filter_eq_self.mpr
    intro other member
    apply decide_eq_true
    intro start'
    exact apart_of_head distinct member (List.mem_of_head? start) (List.mem_of_head? start')
  · unfold chainAt
    rw [List.find?_cons, decide_eq_true start, Option.getD_some]

end Head

/-- The caller has filled all nodes of its chain but the last, `cur`, and has changed nothing
else since `t`. -/
structure Building (t : Owned) (head cur : NodeRef) (chain : List NodeRef)
    (done : List (RawInputState × Nat)) (q : Queue) : Prop where
  start : chain.head? = some head
  last : chain.getLast? = some cur
  filled : contents q chain.dropLast = done
  sound : Owned.Sound ⟨q, chain :: t.owned, t.consumed⟩
  unmoved : Unmoved t ⟨q, chain :: t.owned, t.consumed⟩

/-- Nothing was activated, and every node that was taken is back. -/
structure GaveBack (t : Owned) (q : Queue) : Prop where
  sound : Owned.Sound ⟨q, t.owned, t.consumed⟩
  unmoved : Unmoved t ⟨q, t.owned, t.consumed⟩
  used : ∀ r, q.used r = t.queue.used r

theorem gaveBack_refl {t : Owned} (sound : t.Sound) : GaveBack t t.queue :=
  ⟨sound, Unmoved.refl t, fun _ => rfl⟩

section Building
variable {t : Owned} {head cur : NodeRef} {chain : List NodeRef}
  {done : List (RawInputState × Nat)} {q : Queue}

theorem Building.unused (building : Building t head cur chain done q) (sound : t.Sound) :
    q.unused + chain.length = t.queue.unused := by
  have before := sound.unused
  have after := building.sound.unused
  simp only [Owned.live, List.flatten_cons, List.length_append] at before after
  omega

theorem building_alloc (sound : t.Sound) :
    (inputQueueAlloc t.queue = (none, t.queue) ∧ t.queue.unused = 0) ∨
      ∃ head q, inputQueueAlloc t.queue = (some head, q) ∧ Building t head head [head] [] q := by
  rcases alloc_cases sound.hinted with ⟨refused, full⟩ | ⟨head, taken, -, -⟩
  · exact Or.inl ⟨refused, Queue.unused_zero full⟩
  · refine Or.inr ⟨head, _, taken, rfl, rfl, rfl, ?_, ?_⟩
    · have after := Owned.sound_alloc sound
      simp only [Owned.step, taken] at after
      exact after
    · have unmoved := unmoved_alloc sound
      simp only [Owned.step, taken] at unmoved
      exact unmoved

/-- The last node is filled. -/
theorem Building.fill (building : Building t head cur chain done q) (state : RawInputState)
    (delay : Nat) :
    Building t head cur chain done (q.fill cur state delay) ∧
      contents (q.fill cur state delay) chain = done ++ [(state, delay)] := by
  obtain ⟨start, last, filled, sound, unmoved⟩ := building
  have inside : cur ∈ chain := List.mem_of_getLast? last
  have owns : Owned.Owns ⟨q, chain :: t.owned, t.consumed⟩ (.fill cur state delay) :=
    ⟨chain, List.mem_cons_self, inside⟩
  obtain ⟨front, split⟩ := List.getLast?_eq_some_iff.mp last
  have filled' : contents (q.fill cur state delay) front = done := by
    rw [← filled, split, List.dropLast_concat]
    have single := (List.nodup_flatten.mp sound.distinct).1 chain
      (List.mem_cons_of_mem _ List.mem_cons_self)
    rw [split] at single
    apply List.map_congr_left
    intro r before
    have other : r ≠ cur := by
      intro same
      have apart := List.disjoint_of_nodup_append single
      exact apart before (List.mem_singleton.mpr same)
    simp only [Queue.fill, Function.update_of_ne other]
  constructor
  · refine ⟨start, last, ?_, ?_, unmoved.trans (unmoved_fill sound owns)⟩
    · rw [split, List.dropLast_concat]
      exact filled'
    · exact Owned.sound_fill sound cur state delay
  · have here : contents (q.fill cur state delay) [cur] = [(state, delay)] := by
      simp only [contents, List.map_singleton, Queue.fill, Function.update_self]
    rw [split, ← filled', ← here]
    exact List.map_append

/-- Filling the last node and appending another one. -/
theorem Building.append (building : Building t head cur chain done q) (state : RawInputState)
    (delay : Nat) :
    (inputQueueAppend (q.fill cur state delay) cur = (none, q.fill cur state delay) ∧
        (q.fill cur state delay).unused = 0) ∨
      ∃ next q', inputQueueAppend (q.fill cur state delay) cur = (some next, q') ∧
        Building t head next (chain ++ [next]) (done ++ [(state, delay)]) q' := by
  obtain ⟨⟨start, last, -, sound, unmoved⟩, filled⟩ := building.fill state delay
  have owns : Owned.Owns ⟨q.fill cur state delay, chain :: t.owned, t.consumed⟩ (.append cur) :=
    ⟨chain, List.mem_cons_self, last⟩
  rcases alloc_cases sound.hinted with ⟨refused, full⟩ | ⟨next, taken, unused, -⟩
  · exact Or.inl ⟨by rw [Owned.append_eq, refused], Queue.unused_zero full⟩
  · have appended : inputQueueAppend (q.fill cur state delay) cur = (some next,
        (((q.fill cur state delay).taken next).setNext cur (some next)).setNext next none) := by
      rw [Owned.append_eq, taken]
    have grown : (chain :: t.owned).map (grow cur next) = (chain ++ [next]) :: t.owned := by
      rw [List.map_cons]
      congr 1
      · exact if_pos last
      · rw [← List.map_id' t.owned, List.map_map]
        apply List.map_congr_left
        intro other member
        apply if_neg
        intro last'
        exact apart_of_head sound.owned_distinct member (List.mem_of_getLast? last)
          (List.mem_of_getLast? last')
    have outside (r : NodeRef) (inside : r ∈ chain) : r ≠ next := by
      intro same
      exact sound.link_unused unused chain (List.mem_cons_of_mem _ List.mem_cons_self)
        (same ▸ inside)
    refine Or.inr ⟨next, _, appended, ?_, List.getLast?_concat, ?_, ?_, ?_⟩
    · rw [List.head?_append, start, Option.some_or]
    · rw [List.dropLast_concat, ← filled]
      apply List.map_congr_left
      intro r inside
      have state_delay : ∀ (q : Queue) (i : NodeRef) (next : Option NodeRef),
          (((q.setNext i next).storage r).state, ((q.setNext i next).storage r).delay) =
            ((q.storage r).state, (q.storage r).delay) := by
        intro q i next
        by_cases same : r = i
        · rw [same]
          simp only [Queue.setNext, Function.update_self]
        · simp only [Queue.setNext, Function.update_of_ne same]
      rw [state_delay, state_delay, Queue.taken, state_delay]
    · have after := Owned.sound_append sound owns
      simp only [Owned.step, appended, grown] at after
      exact after
    · have after := unmoved_append sound owns
      simp only [Owned.step, appended, grown] at after
      exact unmoved.trans after

/-- Giving up returns exactly the nodes of the chain. -/
theorem Building.free (building : Building t head cur chain done q) (sound : t.Sound) :
    GaveBack t (inputQueueFree q (some head)) := by
  obtain ⟨start, last, -, built, unmoved⟩ := building
  obtain ⟨rest, found⟩ := others_head built.owned_distinct start
  have legal : Owned.Legal ⟨q, chain :: t.owned, t.consumed⟩ (.free (some head)) := by
    refine ⟨⟨chain, List.mem_cons_self, start⟩, ?_⟩
    rw [Owned.Spares, found]
    intro r inside next
    have next' := unmoved.next.symm.trans next
    obtain ⟨other, member, played, rest, split, -⟩ := sound.playing r next'
    have there : r ∈ t.live.flatten := by
      apply List.mem_flatten.mpr
      exact ⟨other, member, split ▸ List.mem_append_right _ List.mem_cons_self⟩
    have moved : (t.consumed :: chain :: t.owned).flatten.Perm (chain ++ t.live.flatten) :=
      perm_of_split (List.nil_append (chain :: t.owned)).symm t.consumed
    have apart := List.disjoint_of_nodup_append (moved.nodup_iff.mp built.distinct)
    exact apart inside there
  have freed := Owned.sound_free built legal
  have unmoved' := unmoved.trans (unmoved_free built legal)
  simp only [Owned.step, rest] at freed unmoved'
  refine ⟨freed, unmoved', ?_⟩
  intro r
  have same := (freed.used_iff r).trans (sound.used_iff r).symm
  exact Bool.eq_iff_iff.mpr same

/-- Handing the chain over plays what it has been filled with. -/
theorem Building.activate (building : Building t head cur chain done q) (state : RawInputState)
    (delay now : Nat) :
    Playing ⟨done ++ [(state, delay)], now, t.queue.input⟩ chain 0
      ⟨inputQueueSetActive (q.fill cur state delay) (some head) true now, t.owned, chain⟩ := by
  obtain ⟨⟨start, last, -, sound, unmoved⟩, filled⟩ := building.fill state delay
  obtain ⟨rest, found⟩ := others_head sound.owned_distinct start
  have playing := playing_start sound List.mem_cons_self start true now
  have input : (q.fill cur state delay).input = t.queue.input := unmoved.input
  simp only [Owned.step, if_true, rest, found, filled, input] at playing
  exact playing

end Building

end PassingLink.Input
