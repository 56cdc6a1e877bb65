import Mathlib.Data.List.Induction
import CacheAside.Proofs.Recency.Chain

namespace CacheAside.Recency

variable {K : Type}

structure Holds (l : Recency K) (places : List (Slot × K)) : Prop where
  nodes : l.nodes.WellFormed
  chain : Chain l.nodes none places none
  front : l.front = first places none
  back : l.back = last none places
  distinct : (slots places).Nodup
  live : ∀ slot, (l.nodes.get? slot).isSome → slot ∈ slots places
  size : l.nodes.size = places.length

/-- The order consists of these places, and one more node lies in the arena that no link reaches. -/
structure Apart (l : Recency K) (places : List (Slot × K)) (slot : Slot) (node : Node K) :
    Prop where
  nodes : l.nodes.WellFormed
  chain : Chain l.nodes none places none
  front : l.front = first places none
  back : l.back = last none places
  distinct : (slots places).Nodup
  outside : slot ∉ slots places
  node : l.nodes.get? slot = some node
  live : ∀ s, (l.nodes.get? s).isSome → s = slot ∨ s ∈ slots places
  size : l.nodes.size = places.length + 1

variable {l : Recency K} {places front back : List (Slot × K)} {slot : Slot} {key : K}

theorem Holds.empty : (Recency.empty : Recency K).Holds [] :=
  ⟨.empty, True.intro, rfl, rfl, List.nodup_nil, by simp [Recency.empty, Arena.get?_empty], rfl⟩

theorem Holds.clear (l : Recency K) : l.clear.Holds [] := Holds.empty

theorem Apart.lead {nodes : Arena (Node K)}
    (apart : Apart ⟨nodes, l.front, l.back⟩ places slot ⟨key, none, l.front⟩) :
    (l.lead nodes slot).Holds ((slot, key) :: places) := by
  have atFront : l.front = first places none := apart.front
  have atBack : l.back = last none places := apart.back
  refine ⟨setNewer_wellFormed apart.nodes _ _, ⟨?_, ?_⟩, rfl, ?_,
    List.nodup_cons.mpr ⟨apart.outside, apart.distinct⟩, ?_, ?_⟩
  · simp only [Recency.lead, get?_setNewer]
    rw [if_neg, apart.node, atFront]
    intro same
    exact apart.outside (mem_slots_of_first (atFront.symm.trans same))
  · simp only [Recency.lead, atFront]
    exact apart.chain.setNewer apart.distinct (some slot)
  · simp only [Recency.lead, atFront, atBack]
    cases places <;> rfl
  · intro s live
    simp only [Recency.lead, isSome_get?_setNewer] at live
    exact List.mem_cons.mpr (apart.live s live)
  · simpa [Recency.lead] using apart.size

theorem Holds.pushFront (holds : l.Holds places) (key : K) :
    Yields (Word.bound ≤ places.length + 1)
      (fun (slot, l') => l'.Holds ((slot, key) :: places)) (l.pushFront key) := by
  have inserted := holds.nodes.insert ⟨key, none, l.front⟩
  rw [holds.size] at inserted
  apply inserted.bind
  rintro ⟨slot, nodes⟩ inserted
  have outside : slot ∉ slots places := by
    intro taken
    obtain ⟨place, member, rfl⟩ := List.mem_map.mp taken
    obtain ⟨node, found, _⟩ := holds.chain.get? member
    simp [inserted.vacant] at found
  refine Apart.lead ⟨inserted.wellFormed, holds.chain.congr ?_, holds.front, holds.back,
    holds.distinct, outside, by simp [inserted.get?], ?_, ?_⟩
  · intro s member
    rw [inserted.get?, if_neg]
    rintro rfl
    exact outside member
  · intro s live
    simp only [inserted.get?] at live
    by_cases same : s = slot
    · exact .inl same
    · rw [if_neg same] at live
      exact .inr (holds.live s live)
  · simp only [inserted.size, holds.size]

theorem Holds.node (holds : l.Holds (front ++ (slot, key) :: back)) :
    l.nodes.get? slot = some ⟨key, last none front, first back none⟩ :=
  ((chain_append front _).mp holds.chain).2.1

theorem Holds.key? (holds : l.Holds places) {place : Slot × K} (member : place ∈ places) :
    l.key? place.1 = some place.2 := by
  obtain ⟨node, found, same⟩ := holds.chain.get? member
  simp [Recency.key?, found, same]

theorem Holds.vacant (holds : l.Holds places) (outside : slot ∉ slots places) :
    l.nodes.get? slot = none := by
  cases found : l.nodes.get? slot with
  | none => rfl
  | some node => exact absurd (holds.live slot (by simp [found])) outside

theorem Holds.detach (holds : l.Holds (front ++ (slot, key) :: back)) :
    ∃ l', l.detach slot = some l' ∧ l'.Apart (front ++ back) slot ⟨key, none, none⟩ := by
  obtain ⟨ahead, node, behind⟩ := (chain_append front _).mp holds.chain
  have distinct := holds.distinct
  simp only [slots_append, slots_cons, List.nodup_append, List.nodup_cons,
    List.mem_cons] at distinct
  obtain ⟨frontDistinct, ⟨notBack, backDistinct⟩, disjoint⟩ := distinct
  have notFront : slot ∉ slots front := fun member => disjoint slot member slot (.inl rfl) rfl
  -- The two neighbours lie in their own stretches, so that patching one leaves the rest alone.
  have newerIn : ∀ s, last none front = some s → s ∈ slots front := by
    intro s same
    rcases mem_slots_of_last same with impossible | member
    · cases impossible
    · exact member
  have olderIn : ∀ s, first back none = some s → s ∈ slots back := fun s => mem_slots_of_first
  let patched := setNewer (setOlder l.nodes (last none front) (first back none))
    (first back none) (last none front)
  have frame : ∀ s, last none front ≠ some s → first back none ≠ some s →
      patched.get? s = l.nodes.get? s := by
    intro s notNewer notOlder
    simp only [patched, get?_setNewer, get?_setOlder, if_neg notNewer, if_neg notOlder]
  have frontChain : Chain patched none front (first back none) := by
    apply (ahead.setOlder frontDistinct (first back none)).congr
    intro s member
    rw [get?_setNewer, if_neg]
    intro same
    exact disjoint s member s (.inr (olderIn s same)) rfl
  have backChain : Chain patched (last none front) back none := by
    have behind : Chain (setOlder l.nodes (last none front) (first back none)) (some slot) back
        none := by
      apply behind.congr
      intro s member
      rw [get?_setOlder, if_neg]
      intro same
      exact disjoint s (newerIn s same) s (.inr member) rfl
    exact behind.setNewer backDistinct _
  have atSlot : patched.get? slot = some ⟨key, last none front, first back none⟩ := by
    rw [frame slot (fun same => notFront (newerIn _ same))
      (fun same => notBack (olderIn _ same))]
    exact node
  refine ⟨_, by simp only [Recency.detach, holds.node]; rfl, ⟨?_, ?_, ?_, ?_, ?_, ?_, ?_, ?_, ?_⟩⟩
  · exact (setNewer_wellFormed (setOlder_wellFormed holds.nodes _ _) _ _).modify slot _
  · have untouched : ∀ s, s ≠ slot → (patched.modify slot fun self =>
        { self with newer := none, older := none }).get? s = patched.get? s := by
      intro s other
      rw [Arena.get?_modify, if_neg other]
    refine (chain_append front back).mpr ⟨frontChain.congr ?_, backChain.congr ?_⟩
    · exact fun s member => untouched s fun same => notFront (same ▸ member)
    · exact fun s member => untouched s fun same => notBack (same ▸ member)
  · simp only [holds.front, first_append, Option.isNone_iff_eq_none, last_eq_none, true_and]
    cases front <;> simp [first]
  · simp only [holds.back, last_append, Option.isNone_iff_eq_none, first_eq_none]
    cases back <;> simp [last]
  · simp only [slots_append, List.nodup_append]
    exact ⟨frontDistinct, backDistinct,
      fun s member s' member' => disjoint s member s' (.inr member')⟩
  · simp only [slots_append, List.mem_append]
    exact fun member => member.elim notFront notBack
  · rw [Arena.get?_modify, if_pos rfl, atSlot]
    rfl
  · intro s live
    simp only [Arena.isSome_get?_modify, isSome_get?_setNewer, isSome_get?_setOlder] at live
    have member := holds.live s live
    simp only [slots_append, slots_cons, List.mem_append, List.mem_cons] at member ⊢
    rcases member with member | same | member
    · exact .inr (.inl member)
    · exact .inl same
    · exact .inr (.inr member)
  · have size := holds.size
    simp only [Arena.size_modify, size_setNewer, size_setOlder, List.length_append,
      List.length_cons] at size ⊢
    omega

theorem Holds.detach_of_outside (holds : l.Holds places) (outside : slot ∉ slots places) :
    l.detach slot = none := by
  simp only [Recency.detach, holds.vacant outside]

theorem Holds.remove (holds : l.Holds (front ++ (slot, key) :: back)) :
    ∃ l', l.remove slot = .ok (some key, l') ∧ l'.Holds (front ++ back) := by
  obtain ⟨rest, detached, apart⟩ := holds.detach
  obtain ⟨nodes, removed, after⟩ := apart.nodes.remove apart.node
  have frame : ∀ s ∈ slots (front ++ back), nodes.get? s = rest.nodes.get? s := by
    intro s member
    rw [after.get?, if_neg]
    rintro rfl
    exact apart.outside member
  refine ⟨{ rest with nodes }, ?_, after.wellFormed, apart.chain.congr frame, apart.front,
    apart.back, apart.distinct, ?_, ?_⟩
  · simp only [Recency.remove, detached, removed]
    rfl
  · intro s live
    simp only [after.get?] at live
    by_cases same : s = slot
    · simp [same] at live
    · rw [if_neg same] at live
      exact (apart.live s live).resolve_left same
  · have size := apart.size
    have fewer := after.size
    simp only
    omega

theorem Holds.remove_of_outside (holds : l.Holds places) (outside : slot ∉ slots places) :
    l.remove slot = .ok (none, l) := by
  simp only [Recency.remove, holds.detach_of_outside outside]
  rfl

theorem Holds.popBack_nil (holds : l.Holds []) : l.popBack = .ok (none, l) := by
  have back : l.back = none := holds.back
  simp only [Recency.popBack, back]
  rfl

theorem Holds.popBack (holds : l.Holds (front ++ [(slot, key)])) :
    ∃ l', l.popBack = .ok (some key, l') ∧ l'.Holds front := by
  obtain ⟨l', removed, after⟩ := holds.remove
  have back : l.back = some slot := by rw [holds.back, last_append]; rfl
  rw [List.append_nil] at after
  refine ⟨l', ?_, after⟩
  simp only [Recency.popBack, back, removed]

theorem Apart.attachFront (apart : l.Apart places slot ⟨key, none, none⟩) :
    (l.attachFront slot).Holds ((slot, key) :: places) := by
  simp only [Recency.attachFront, Arena.contains, apart.node, Option.isSome_some, if_true]
  refine Apart.lead ⟨apart.nodes.modify slot _, apart.chain.congr ?_, apart.front, apart.back,
    apart.distinct, apart.outside, ?_, ?_, apart.size⟩
  · intro s member
    rw [Arena.get?_modify, if_neg]
    rintro rfl
    exact apart.outside member
  · simp [Arena.get?_modify, apart.node]
  · intro s live
    exact apart.live s (by simpa using live)

theorem Holds.moveToFront (holds : l.Holds (front ++ (slot, key) :: back)) :
    ∃ l', l.moveToFront slot = (true, l') ∧ l'.Holds ((slot, key) :: (front ++ back)) := by
  have live : l.nodes.contains slot = true := Arena.contains_iff.mpr ⟨_, holds.node⟩
  by_cases leads : l.front = some slot
  · -- Slots are distinct, so the front slot stands nowhere but in front.
    have nothing : front = [] := by
      cases front with
      | nil => rfl
      | cons place front =>
        have same : place.1 = slot := Option.some.inj (holds.front.symm.trans leads)
        have distinct := holds.distinct
        simp [same] at distinct
    subst nothing
    exact ⟨l, by simp [Recency.moveToFront, live, leads], holds⟩
  · obtain ⟨rest, detached, apart⟩ := holds.detach
    exact ⟨rest.attachFront slot, by simp [Recency.moveToFront, live, leads, detached],
      apart.attachFront⟩

theorem Holds.moveToFront_of_outside (holds : l.Holds places) (outside : slot ∉ slots places) :
    l.moveToFront slot = (false, l) := by
  simp [Recency.moveToFront, Arena.contains, holds.vacant outside]

theorem Chain.walk_older {newer : Option Slot} (chain : Chain l.nodes newer places none)
    (steps : Nat) : ((l.walk Node.older steps (first places none)).map fun (slot, node) =>
      (slot, node.key)) = places.take steps := by
  induction places generalizing newer steps with
  | nil => cases steps <;> rfl
  | cons place places ih =>
    cases steps with
    | zero => rfl
    | succ steps =>
      have head := chain.1
      have rest := ih chain.2 steps
      change (l.walk Node.older (steps + 1) (some place.1)).map _ = _
      simp only [walk, head, List.map_cons, List.take_succ_cons]
      exact congrArg (place :: ·) rest

/-- The way back takes a stretch apart at its end, where the walk starts. -/
theorem Chain.walk_newer {older : Option Slot} (chain : Chain l.nodes none places older)
    (steps : Nat) : ((l.walk Node.newer steps (last none places)).map fun (slot, node) =>
      (slot, node.key)) = places.reverse.take steps := by
  induction places using List.reverseRecOn generalizing older steps with
  | nil => cases steps <;> rfl
  | append_singleton front place ih =>
    obtain ⟨ahead, node, _⟩ := (chain_append front [place]).mp chain
    cases steps with
    | zero => rfl
    | succ steps =>
      have rest := ih ahead steps
      rw [last_append, List.reverse_append]
      change (l.walk Node.newer (steps + 1) (some place.1)).map _ = _
      simp only [walk, node, List.map_cons, List.reverse_singleton, List.singleton_append,
        List.take_succ_cons]
      exact congrArg (place :: ·) rest

theorem get?_of_mem_walk {next : Node K → Option Slot} {steps : Nat} {start : Option Slot}
    {node : Node K} (met : (slot, node) ∈ l.walk next steps start) :
    l.nodes.get? slot = some node := by
  induction steps generalizing start with
  | zero => cases met
  | succ steps ih =>
    cases start with
    | none => cases met
    | some place =>
      simp only [walk] at met
      split at met
      · cases met
      · rcases List.mem_cons.mp met with same | met
        · cases same
          assumption
        · exact ih met

/-- Every place is met on the way from the front to the back. -/
theorem Holds.met (holds : l.Holds places) (member : (slot, key) ∈ places) :
    ∃ node, (slot, node) ∈ l.walk Node.older l.length l.front ∧ node.key = key := by
  have walked := holds.chain.walk_older l.length
  rw [Recency.length, holds.size, List.take_length, ← holds.front] at walked
  rw [← walked] at member
  obtain ⟨⟨slot, node⟩, met, same⟩ := List.mem_map.mp member
  cases same
  exact ⟨node, by rwa [Recency.length, holds.size], rfl⟩

theorem Holds.keys (holds : l.Holds places) : l.keys = places.map Prod.snd := by
  have size := holds.size
  have cells := holds.nodes.size_add_free
  have enough : places.length ≤ l.nodes.cells.size := by omega
  have walked := holds.chain.walk_older l.nodes.cells.size
  calc l.keys = ((l.walk Node.older l.nodes.cells.size (first places none)).map
        fun (slot, node) => (slot, node.key)).map Prod.snd := by
        simp only [Recency.keys, holds.front, List.map_map]
        rfl
    _ = places.map Prod.snd := by rw [walked, List.take_of_length_le enough]

theorem Chain.linkedFrom {newer : Option Slot} (chain : Chain l.nodes newer places none)
    (back : places ≠ [] → l.back = last newer places) :
    l.linkedFrom places.length newer (first places none) = true := by
  induction places generalizing newer with
  | nil => rfl
  | cons place places ih =>
    have atBack := back (List.cons_ne_nil _ _)
    have rest := ih chain.2 fun _ => atBack
    have atEnd : ((first places none).isSome || l.back == some place.1) = true := by
      cases places with
      | nil => simp [atBack, last]
      | cons next places => rfl
    change l.linkedFrom (places.length + 1) newer (some place.1) = true
    simp only [Recency.linkedFrom, chain.1, rest, atEnd, BEq.rfl, Bool.and_true]

theorem Holds.wellLinked (holds : l.Holds places) : l.wellLinked = true := by
  rw [Recency.wellLinked, Recency.length, holds.size]
  cases places with
  | nil =>
    have front : l.front = none := holds.front
    have back : l.back = none := holds.back
    simp [front, back]
  | cons place places =>
    have front : l.front = some place.1 := holds.front
    have back : l.back ≠ none := by simp [holds.back, last_eq_none]
    rw [if_neg (by simp [front, back]), holds.front]
    exact holds.chain.linkedFrom fun _ => holds.back

theorem Holds.newest? (holds : l.Holds places) : l.newest? = places.head?.map Prod.snd := by
  rw [Recency.newest?, holds.front]
  cases places with
  | nil => rfl
  | cons place places => exact holds.key? List.mem_cons_self

theorem Holds.oldest? (holds : l.Holds places) : l.oldest? = places.getLast?.map Prod.snd := by
  rw [Recency.oldest?, holds.back, last_eq_getLast?]
  cases tail : places.getLast? with
  | none => rfl
  | some place => exact holds.key? (List.mem_of_getLast? tail)

theorem Holds.length (holds : l.Holds places) : l.length = places.length := holds.size

end CacheAside.Recency
