import Mathlib.Data.List.Basic
import CacheAside.Proofs.Shard.Represents

namespace CacheAside.Shard

variable {K V : Type} [BEq K] [Hashable K]

def Models (s : Shard K V) (l : Lru K V) : Prop := ∃ nodes, s.Represents nodes ∧ nodes.pairs = l

structure Reaches (s : Shard K V) (l : Lru K V) (events : List CacheEvent) (s' : Shard K V) :
    Prop where
  models : s'.Models l
  capacity : s'.capacity = s.capacity
  events : s'.events = s.events.tallyAll events

variable {s : Shard K V} {l : Lru K V} {nodes front : Nodes K V} {node : K × Entry V} {key : K}

theorem Models.create (capacity : Nat) : (create capacity : Shard K V).Models [] :=
  ⟨[], .create capacity, rfl⟩

theorem Models.unchanged (m : s.Models l) : s.Reaches l [] s := ⟨m, rfl, rfl⟩

theorem Represents.models (r : s.Represents nodes) : s.Models nodes.pairs := ⟨nodes, r, rfl⟩

theorem Models.len (m : s.Models l) : s.len = l.length := by
  obtain ⟨nodes, r, rfl⟩ := m
  rw [Shard.len, r.size, Nodes.length_pairs]

theorem Models.len_le (m : s.Models l) : s.len ≤ s.capacity := by
  obtain ⟨nodes, r, rfl⟩ := m
  rw [Shard.len, r.size]
  exact r.fits

theorem Models.keys (m : s.Models l) : s.keys = l.map Prod.fst := by
  obtain ⟨nodes, r, rfl⟩ := m
  rw [r.keys, Nodes.pairs, List.map_map]
  rfl

theorem Models.peek (m : s.Models l) (key : K) : s.peek key = l.peek key := by
  obtain ⟨nodes, r, rfl⟩ := m
  rw [Shard.peek, r.lookup, Lru.peek, Nodes.pair?_pairs]
  cases nodes.pair? key <;> rfl

theorem clear_reaches (s : Shard K V) :
    Yields (s.events.Full [.clearing]) (s.Reaches [] [.clearing]) s.clear := by
  apply (CacheEvents.record_yields s.events .clearing).bind
  intro events counted
  refine ⟨⟨[], ⟨.clear _, ?_, ?_, List.Pairwise.nil, Nat.zero_le _, Nat.zero_le _⟩, rfl⟩, rfl,
    counted⟩
  · simp [Lru.pair?]
  · rfl

variable [EquivBEq K]

theorem Models.get (m : s.Models l) (key : K) :
    Yields (s.events.Full (l.events s.capacity (.get key)))
      (fun (value, s') => value = (l.get key).1 ∧
        s.Reaches (l.get key).2 (l.events s.capacity (.get key)) s') (s.get key) := by
  obtain ⟨nodes, r, rfl⟩ := m
  cases found : s.map[key]? with
  | none =>
    have entry : nodes.pairs.pair? key = none := by simp [Nodes.pair?_pairs, r.absent found]
    simp only [Shard.get, found, Lru.get, Lru.events, entry]
    apply (CacheEvents.record_yields s.events .getMiss).bind
    intro events counted
    subst counted
    exact ⟨rfl, ⟨nodes, ⟨r.order, r.lookup, r.size, r.distinct, r.fits, r.inserted⟩, rfl⟩, rfl, rfl⟩
  | some entry =>
    obtain ⟨held, here⟩ := r.found found
    have pair? : nodes.pairs.pair? key = some (held, entry.value) := by
      simp [Nodes.pair?_pairs, here]
    simp only [Shard.get, found, Lru.get, Lru.events, pair?]
    apply (CacheEvents.record_yields s.events .getHit).bind
    intro events counted
    subst counted
    refine ⟨rfl, ⟨_, r.toFront here entry rfl ?_ rfl (s.events.tally .getHit) rfl, ?_⟩, rfl, rfl⟩
    · intro key'
      cases same : key == key' with
      | true =>
        rw [if_pos rfl, r.lookup, ← Lru.pair?_congr same, here]
        rfl
      | false => rw [if_neg (by simp)]
    · exact congrArg ((held, entry.value) :: ·) (Nodes.without_pairs nodes key).symm

theorem Represents.oldest (r : s.Represents (front ++ [node])) :
    s.order.oldest? = some node.1 ∧ s.map[node.1]? = some node.2 := by
  have holds := r.order
  rw [Nodes.places, List.map_append] at holds
  refine ⟨by rw [holds.oldest?, List.map_singleton, List.getLast?_concat]; rfl, ?_⟩
  rw [r.lookup, r.distinct.pair?_last]
  rfl

theorem Models.peekOldest (m : s.Models l) : s.peekOldest = l.getLast? := by
  obtain ⟨nodes, r, rfl⟩ := m
  rcases List.eq_nil_or_concat' nodes with rfl | ⟨front, node, rfl⟩
  · simp [Shard.peekOldest, r.order.oldest?, Nodes.pairs, Nodes.places]
  · obtain ⟨oldest, entry⟩ := r.oldest
    simp [Shard.peekOldest, oldest, entry, Nodes.pairs]

theorem Models.toList (m : s.Models l) : s.toList = l := by
  obtain ⟨nodes, r, rfl⟩ := m
  have entries : ∀ n ∈ nodes, ((s.peek n.1).map fun value => (n.1, value)) =
      some (n.1, n.2.value) := by
    intro n member
    obtain ⟨front, back, rfl⟩ := List.append_of_mem member
    rw [Shard.peek, r.lookup, r.distinct.pair?_self]
    rfl
  rw [Shard.toList, r.keys, List.filterMap_map]
  exact List.filterMap_eq_map_iff_forall_eq_some.mpr entries

variable [LawfulHashable K]

theorem Models.contains (m : s.Models l) (key : K) : s.contains key = l.contains key := by
  obtain ⟨nodes, r, rfl⟩ := m
  rw [Shard.contains, Std.HashMap.contains_eq_isSome_getElem?, r.lookup, Option.isSome_map,
    Lru.pair?, List.isSome_find?, Lru.contains, Nodes.pairs, List.any_map]
  rfl

theorem Models.rank (m : s.Models l) (key : K) : s.rank key = l.rank key := by
  obtain ⟨nodes, r, rfl⟩ := m
  rw [Shard.rank, r.keys, List.findIdx?_map, Std.HashMap.contains_eq_isSome_getElem?, r.lookup,
    Option.isSome_map, Lru.rank, Nodes.pairs, List.findIdx?_map]
  cases found : nodes.pair? key with
  | none =>
    have absent := Lru.pair?_eq_none.mp found
    rw [if_neg (by simp), eq_comm, List.findIdx?_eq_none_iff]
    exact absent
  | some node => rfl

theorem Models.remove (m : s.Models l) (key : K) :
    Yields (s.events.Full (l.events s.capacity (.remove key)))
      (fun (value, s') => value = (l.remove key).1 ∧
        s.Reaches (l.remove key).2 (l.events s.capacity (.remove key)) s') (s.remove key) := by
  obtain ⟨nodes, r, rfl⟩ := m
  cases found : s.map[key]? with
  | none =>
    have absent := r.absent found
    have entry : nodes.pairs.pair? key = none := by simp [Nodes.pair?_pairs, absent]
    have unchanged : nodes.without key = nodes :=
      List.eraseP_of_forall_not fun n member => by simp [Lru.pair?_eq_none.mp absent n member]
    simp only [Shard.remove, found, Lru.remove, Lru.peek, Lru.events, entry, Nodes.without_pairs,
      unchanged]
    exact ⟨rfl, r.models.unchanged⟩
  | some entry =>
    obtain ⟨held, here⟩ := r.found found
    have pair? : nodes.pairs.pair? key = some (held, entry.value) := by
      simp [Nodes.pair?_pairs, here]
    obtain ⟨order, removed, holds⟩ := r.removed here
    simp only [Shard.remove, found, Lru.remove, Lru.peek, Lru.events, pair?, Nodes.without_pairs,
      removed]
    apply (CacheEvents.record_yields s.events .removal).bind
    intro events counted
    subst counted
    exact ⟨rfl, (r.erase here holds (s.events.tally .removal) rfl).models, rfl, rfl⟩

theorem Represents.popBack (r : s.Represents (front ++ [node])) :
    ∃ order, s.order.popBack = .ok (some node.1, order) ∧
      ∀ events : CacheEvents, events.inserts = s.events.inserts →
        ({ s with map := s.map.erase node.1, order, events } : Shard K V).Represents front := by
  have holds := r.order
  rw [Nodes.places, List.map_append] at holds
  obtain ⟨order, popped, rest⟩ := holds.popBack
  refine ⟨order, popped, ?_⟩
  intro events counted
  have without := r.distinct.without_last
  have holds : order.Holds (Nodes.places (Lru.without (front ++ [node]) node.1)) := by
    rwa [without]
  have erased := r.erase r.distinct.pair?_last holds events counted
  rwa [without] at erased

theorem Models.popOldest (m : s.Models l) :
    ∃ s', s.popOldest = .ok (l.popOldest.1, s') ∧ s.Reaches l.popOldest.2 [] s' := by
  obtain ⟨nodes, r, rfl⟩ := m
  rcases List.eq_nil_or_concat' nodes with rfl | ⟨front, node, rfl⟩
  · refine ⟨s, ?_, r.models.unchanged⟩
    simp only [Shard.popOldest, Recency.Holds.popBack_nil r.order]
    rfl
  · obtain ⟨order, popped, rest⟩ := r.popBack
    refine ⟨_, ?_, ⟨front, rest s.events rfl, ?_⟩, rfl, rfl⟩
    · simp only [Shard.popOldest, popped]
      change Except.ok (s.map[node.1]?.map _, _) = _
      rw [r.oldest.2]
      simp [Lru.popOldest, Nodes.pairs]
    · simp [Lru.popOldest, Nodes.pairs]

/-- There is room after making room, and a key that was not there is still not there. -/
theorem Represents.makeRoom (r : s.Represents nodes) (positive : 0 < s.capacity) :
    Yields (s.events.Full (nodes.pairs.evictions s.capacity))
      (fun s' => ∃ rest, s'.Represents rest ∧ rest.length < s.capacity ∧ rest.Sublist nodes ∧
        rest.pairs = (if nodes.length = s.capacity then nodes.pairs.dropLast else nodes.pairs) ∧
        s'.capacity = s.capacity ∧
        s'.events = s.events.tallyAll (nodes.pairs.evictions s.capacity)) s.makeRoom := by
  have fits := r.fits
  by_cases full : nodes.length = s.capacity
  · have counted : nodes.pairs.evictions s.capacity = [.eviction] := by
      simp [Lru.evictions, full]
    rw [if_pos full, counted, Shard.makeRoom, if_neg (by rw [r.size]; omega)]
    rcases List.eq_nil_or_concat' nodes with rfl | ⟨front, node, rfl⟩
    · simp at full
      omega
    · obtain ⟨order, popped, rest⟩ := r.popBack
      simp only [popped]
      apply (CacheEvents.record_yields s.events .eviction).bind
      intro events counted
      subst counted
      refine ⟨front, rest _ rfl, ?_, by simp, by simp [Nodes.pairs], rfl, rfl⟩
      simp only [List.length_append, List.length_cons, List.length_nil] at full
      omega
  · have counted : nodes.pairs.evictions s.capacity = [] := by simp [Lru.evictions, full]
    rw [if_neg full, counted, Shard.makeRoom, if_pos (by rw [r.size]; omega)]
    exact ⟨nodes, r, by omega, List.Sublist.refl _, rfl, rfl, rfl⟩

theorem Represents.insert_present (r : s.Represents nodes) {entry : Entry V}
    (found : s.map[key]? = some entry) (value : V) :
    Yields (s.events.Full [.insertUpdate])
      (fun (old, s') => old = (nodes.pairs.insert s.capacity key value).1 ∧
        s.Reaches (nodes.pairs.insert s.capacity key value).2 [.insertUpdate] s')
      (s.insert key value) := by
  obtain ⟨held, here⟩ := r.found found
  have pair? : nodes.pairs.pair? key = some (held, entry.value) := by
    simp [Nodes.pair?_pairs, here]
  simp only [Shard.insert, found, Lru.insert, pair?]
  apply (CacheEvents.record_yields s.events .insertUpdate).bind
  intro events counted
  subst counted
  have size : (s.map.insert key { entry with value }).size = s.map.size := by
    rw [Std.HashMap.size_insert, if_pos (r.mem_map.mpr (by simp [here]))]
  have front := r.toFront here { entry with value } rfl
    (fun key' => Std.HashMap.getElem?_insert) size (s.events.tally .insertUpdate) rfl
  exact ⟨rfl, ⟨_, front, congrArg ((held, value) :: ·) (Nodes.without_pairs nodes key).symm⟩,
    rfl, rfl⟩

theorem Represents.insert_absent (r : s.Represents nodes) (found : s.map[key]? = none)
    (positive : 0 < s.capacity) (value : V) :
    Yields (s.events.Full (nodes.pairs.evictions s.capacity ++ [.insertNew]))
      (fun (old, s') => old = (nodes.pairs.insert s.capacity key value).1 ∧
        s.Reaches (nodes.pairs.insert s.capacity key value).2
          (nodes.pairs.evictions s.capacity ++ [.insertNew]) s') (s.insert key value) := by
  have absent := r.absent found
  have pair? : nodes.pairs.pair? key = none := by simp [Nodes.pair?_pairs, absent]
  have nonzero : s.capacity ≠ 0 := by omega
  simp only [Shard.insert, found, Lru.insert, pair?, nonzero, if_false]
  refine ((r.makeRoom positive).mono (fun full => full.mono (List.subset_append_left _ _))
    fun _ made => made).bind ?_
  rintro s₁ ⟨rest, r₁, room, fewer, pairs, capacity, events₁⟩
  have same : s₁.events.inserts = s.events.inserts := by
    rw [events₁]
    simp only [Lru.evictions]
    split <;> rfl
  -- Both what is counted next and the arena are full only where the insertions are.
  have inserting : Word.bound ≤ s.events.inserts + 1 → s.events.Full
      (nodes.pairs.evictions s.capacity ++ [.insertNew]) :=
    fun beyond => ⟨.insertNew, by simp, beyond⟩
  have recorded : s₁.events.Full [.insertNew] → s.events.Full
      (nodes.pairs.evictions s.capacity ++ [.insertNew]) := by
    rintro ⟨event, member, beyond⟩
    cases List.mem_singleton.mp member
    exact inserting (same ▸ beyond)
  apply ((CacheEvents.record_yields s₁.events .insertNew).mono recorded fun _ c => c).bind
  intro events₂ counted
  subst counted
  refine ((r₁.order.pushFront key).mono (fun beyond => inserting ?_) fun _ holds => holds).bind ?_
  · have bound := r₁.inserted
    rw [Nodes.length_places] at beyond
    omega
  · rintro ⟨slot, order⟩ holds
    have absent₁ : rest.pair? key = none := by
      rw [Lru.pair?_eq_none] at absent ⊢
      exact fun n member => absent n (fewer.subset member)
    have entered := r₁.enter absent₁ value holds (by omega) (s₁.events.tally .insertNew) rfl
    refine ⟨?_, ⟨_, entered, ?_⟩, capacity, ?_⟩
    · split <;> rfl
    · change (key, value) :: rest.pairs = _
      rw [pairs, Nodes.length_pairs]
      split <;> rfl
    · rw [CacheEvents.tallyAll_concat, ← events₁]

theorem Models.insert (m : s.Models l) (key : K) (value : V) :
    Yields (s.events.Full (l.events s.capacity (.insert key value)))
      (fun (old, s') => old = (l.insert s.capacity key value).1 ∧
        s.Reaches (l.insert s.capacity key value).2 (l.events s.capacity (.insert key value)) s')
      (s.insert key value) := by
  obtain ⟨nodes, r, rfl⟩ := m
  cases found : s.map[key]? with
  | some entry =>
    obtain ⟨held, here⟩ := r.found found
    have counted : nodes.pairs.events s.capacity (.insert key value) = [.insertUpdate] := by
      simp [Lru.events, Nodes.pair?_pairs, here]
    rw [counted]
    exact r.insert_present found value
  | none =>
    have pair? : nodes.pairs.pair? key = none := by simp [Nodes.pair?_pairs, r.absent found]
    by_cases nothing : s.capacity = 0
    · simp only [Shard.insert, found, Lru.insert, Lru.events, pair?, nothing, if_true]
      exact ⟨rfl, r.models.unchanged⟩
    · have counted : nodes.pairs.events s.capacity (.insert key value) =
          nodes.pairs.evictions s.capacity ++ [.insertNew] := by
        simp [Lru.events, pair?, nothing]
      rw [counted]
      exact r.insert_absent found (Nat.pos_of_ne_zero nothing) value

end CacheAside.Shard
