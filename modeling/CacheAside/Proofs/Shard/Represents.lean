import CacheAside.Proofs.Metrics.Tally
import CacheAside.Proofs.Recency.Sequence
import CacheAside.Proofs.Shard.Lru

namespace CacheAside.Shard

variable {K V : Type}

abbrev Nodes (K V : Type) := Lru K (Entry V)

namespace Nodes

def places (nodes : Nodes K V) : List (Slot × K) := nodes.map fun n => (n.2.slot, n.1)

def pairs (nodes : Nodes K V) : Lru K V := nodes.map fun n => (n.1, n.2.value)

@[simp] theorem length_pairs (nodes : Nodes K V) : nodes.pairs.length = nodes.length :=
  List.length_map _

@[simp] theorem length_places (nodes : Nodes K V) : nodes.places.length = nodes.length :=
  List.length_map _

variable [BEq K]

theorem pair?_pairs (nodes : Nodes K V) (key : K) :
    nodes.pairs.pair? key = (nodes.pair? key).map fun n => (n.1, n.2.value) := List.find?_map

theorem without_pairs (nodes : Nodes K V) (key : K) :
    nodes.pairs.without key = pairs (nodes.without key) := List.eraseP_map

end Nodes

variable [BEq K] [Hashable K]

/-- The map and the recency order hold the same nodes: each key is there once, its entry names the
    slot of its own place, and no more nodes are there than fit or than were ever inserted. -/
structure Represents (s : Shard K V) (nodes : Nodes K V) : Prop where
  order : s.order.Holds nodes.places
  lookup : ∀ key, s.map[key]? = (nodes.pair? key).map Prod.snd
  size : s.map.size = nodes.length
  distinct : nodes.Distinct
  fits : nodes.length ≤ s.capacity
  inserted : nodes.length ≤ s.events.inserts

variable {s : Shard K V} {nodes : Nodes K V} {node : K × Entry V} {key : K}

theorem Represents.create (capacity : Nat) : (create capacity : Shard K V).Represents [] :=
  ⟨.empty, by simp [Shard.create, Lru.pair?], rfl, List.Pairwise.nil, Nat.zero_le _, Nat.zero_le _⟩

theorem Represents.found (r : s.Represents nodes) {entry : Entry V}
    (found : s.map[key]? = some entry) :
    ∃ held, nodes.pair? key = some (held, entry) := by
  rw [r.lookup] at found
  obtain ⟨⟨held, _⟩, here, rfl⟩ := Option.map_eq_some_iff.mp found
  exact ⟨held, here⟩

theorem Represents.absent (r : s.Represents nodes) (absent : s.map[key]? = none) :
    nodes.pair? key = none := by
  rw [r.lookup] at absent
  exact Option.map_eq_none_iff.mp absent

theorem Represents.keys (r : s.Represents nodes) : s.keys = nodes.map Prod.fst := by
  rw [Shard.keys, r.order.keys, Nodes.places, List.map_map]
  rfl

theorem Represents.place (r : s.Represents nodes) (found : nodes.pair? key = some node) :
    ∃ front back, s.order.Holds (front ++ (node.2.slot, node.1) :: back) ∧
      Nodes.places (nodes.without key) = front ++ back := by
  obtain ⟨_, front, back, shape, rest⟩ := Lru.pair?_eq_some found
  have order := r.order
  rw [shape, Nodes.places, List.map_append] at order
  exact ⟨Nodes.places front, Nodes.places back, order,
    by rw [rest, Nodes.places, List.map_append]; rfl⟩

theorem Represents.moveToFront (r : s.Represents nodes) (found : nodes.pair? key = some node) :
    (s.order.moveToFront node.2.slot).2.Holds ((node.2.slot, node.1) ::
      Nodes.places (nodes.without key)) := by
  obtain ⟨front, back, order, rest⟩ := r.place found
  obtain ⟨moved, same, holds⟩ := order.moveToFront
  rw [same, rest]
  exact holds

theorem Represents.removed (r : s.Represents nodes) (found : nodes.pair? key = some node) :
    ∃ order, s.order.remove node.2.slot = .ok (some node.1, order) ∧
      order.Holds (Nodes.places (nodes.without key)) := by
  obtain ⟨front, back, order, rest⟩ := r.place found
  obtain ⟨removed, same, holds⟩ := order.remove
  exact ⟨removed, same, rest ▸ holds⟩

variable [EquivBEq K]

theorem Represents.toFront (r : s.Represents nodes) (found : nodes.pair? key = some node)
    {map : Std.HashMap K (Entry V)} (entry : Entry V) (slot : entry.slot = node.2.slot)
    (lookup : ∀ key', map[key']? = if key == key' then some entry else s.map[key']?)
    (size : map.size = s.map.size) (events : CacheEvents)
    (counted : events.inserts = s.events.inserts) :
    ({ s with map, order := (s.order.moveToFront node.2.slot).2, events } : Shard K V).Represents
      ((node.1, entry) :: nodes.without key) := by
  have fewer := Lru.length_without found
  have fits := r.fits
  have inserted := r.inserted
  refine ⟨?_, ?_, ?_, r.distinct.toFront found, ?_, ?_⟩
  · simpa [Nodes.places, slot] using r.moveToFront found
  · intro key'
    rw [lookup, Lru.pair?_toFront found, r.lookup]
    split <;> rfl
  · simp only [size, r.size, List.length_cons]
    omega
  · simp only [List.length_cons]
    omega
  · simp only [List.length_cons]
    omega

variable [LawfulHashable K]

theorem Represents.mem_map (r : s.Represents nodes) : key ∈ s.map ↔ (nodes.pair? key).isSome := by
  rw [Std.HashMap.mem_iff_isSome_getElem?, r.lookup, Option.isSome_map]

theorem Represents.erase (r : s.Represents nodes) (found : nodes.pair? key = some node)
    {order : Recency K} (holds : order.Holds (Nodes.places (nodes.without key)))
    (events : CacheEvents) (counted : events.inserts = s.events.inserts) :
    ({ s with map := s.map.erase key, order, events } : Shard K V).Represents
      (nodes.without key) := by
  have fewer := Lru.length_without found
  have fits := r.fits
  have inserted := r.inserted
  refine ⟨holds, ?_, ?_, r.distinct.without key, by simp only; omega, by simp only; omega⟩
  · intro key'
    rw [Std.HashMap.getElem?_erase, r.lookup]
    cases same : key == key' with
    | true =>
      rw [if_pos rfl, ← Lru.pair?_congr same, r.distinct.pair?_without]
      rfl
    | false =>
      rw [if_neg (by simp), Lru.pair?_without_of_ne same]
  · rw [Std.HashMap.size_erase, if_pos (r.mem_map.mpr (by simp [found])), r.size]
    omega

theorem Represents.enter (r : s.Represents nodes) (absent : nodes.pair? key = none) {slot : Slot}
    {order : Recency K} (value : V) (holds : order.Holds ((slot, key) :: nodes.places))
    (room : nodes.length < s.capacity) (events : CacheEvents)
    (counted : events.inserts = s.events.inserts + 1) :
    ({ s with map := s.map.insert key ⟨value, slot⟩, order, events } : Shard K V).Represents
      ((key, ⟨value, slot⟩) :: nodes) := by
  have inserted := r.inserted
  refine ⟨holds, ?_, ?_, ?_, room, by simp only [List.length_cons]; omega⟩
  · intro key'
    rw [Std.HashMap.getElem?_insert, r.lookup, Lru.pair?_cons]
    cases key == key' <;> rfl
  · rw [Std.HashMap.size_insert, if_neg (by simp [r.mem_map, absent]), r.size]
    rfl
  · refine List.pairwise_cons.mpr ⟨?_, r.distinct⟩
    intro n member
    rw [BEq.comm]
    exact Lru.pair?_eq_none.mp absent n member

end CacheAside.Shard
