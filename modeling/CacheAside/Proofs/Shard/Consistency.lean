import CacheAside.Proofs.Recency.Cells
import CacheAside.Proofs.Replay
import CacheAside.Proofs.Shard.Contents
import CacheAside.Proofs.Shard.Refinement

namespace CacheAside

theorem Lru.lookups_le_one {K V : Type} [BEq K] (l : Lru K V) (capacity : Nat)
    (op : Shard.Op K V) :
    (l.events capacity op).count .getHit + (l.events capacity op).count .getMiss ≤ 1 := by
  cases op with
  | insert key value => simp only [events, evictions]; split_ifs <;> decide
  | get key => simp only [events]; split_ifs <;> decide
  | remove key => simp only [events]; split_ifs <;> decide
  | _ => simp [events]

namespace Shard

variable {K V : Type} [BEq K] [Hashable K]

/-- The map and the recency order of a shard belong together: they have the same keys, none of them
    twice, and the slot of an entry is that of a node on the way from the front to the back which
    carries the entry's key. Neither outgrows the capacity. -/
structure Agrees (s : Shard K V) : Prop where
  keys : ∀ key, key ∈ s.map ↔ ∃ held ∈ s.keys, (held == key) = true
  distinct : s.keys.Pairwise fun a b => (a == b) = false
  size : s.map.size = s.keys.length
  node : ∀ (key : K) (entry : Entry V), s.map[key]? = some entry → ∃ node,
    s.order.nodes.get? entry.slot = some node ∧ (node.key == key) = true ∧
      (entry.slot, node) ∈ s.order.walk Recency.Node.older s.order.length s.order.front
  moves : ∀ (key : K) (entry : Entry V), s.map[key]? = some entry →
    (s.order.moveToFront entry.slot).1 = true
  dropped : ∀ key order, s.order.popBack = .ok (some key, order) → key ∈ s.map
  popped : ∀ s', s.popOldest = .ok (none, s') → s.keys = [] ∧ s.map.isEmpty = true
  size_le : s.map.size ≤ s.capacity
  cells_le : s.order.cells ≤ s.capacity
  consistent : s.consistent = true

/-- What every operation keeps up: the map and the order hold the same pairs, in no more cells than
    the capacity, and the counters are no larger than the number of operations so far. -/
structure Sound (n : Nat) (s : Shard K V) : Prop where
  intact : s.Intact
  cells_le : s.order.cells ≤ s.capacity
  counts : ∀ event, s.events.count event ≤ n
  lookups : s.events.getHits + s.events.getMisses ≤ n

variable {s s' : Shard K V} {nodes : Nodes K V} {l : Lru K V} {key : K} {value : Option V}
  {entry : Entry V} {n : Nat}

theorem Sound.create (capacity : Nat) : (create capacity : Shard K V).Sound 0 := by
  refine ⟨.create capacity, Nat.zero_le _, ?_, Nat.le_refl 0⟩
  intro event
  cases event <;> exact Nat.le_refl 0

theorem cells_makeRoom (made : s.makeRoom = .ok s') : s'.order.cells = s.order.cells := by
  unfold makeRoom at made
  split at made
  · cases made
    rfl
  · obtain ⟨⟨evicted, order⟩, popped, rest⟩ := eq_ok_of_bind made
    have same := Recency.cells_popBack popped
    cases evicted with
    | none =>
      cases rest
      exact same
    | some key =>
      obtain ⟨events, _, rest⟩ := eq_ok_of_bind rest
      cases rest
      exact same

theorem cells_get (got : s.get key = .ok (value, s')) : s'.order.cells = s.order.cells := by
  unfold get at got
  split at got <;>
  · obtain ⟨events, _, rest⟩ := eq_ok_of_bind got
    cases rest
    first
    | rfl
    | exact Recency.cells_moveToFront _ _

theorem cells_remove (removed : s.remove key = .ok (value, s')) :
    s'.order.cells = s.order.cells := by
  unfold remove at removed
  split at removed
  · cases removed
    rfl
  · obtain ⟨⟨_, order⟩, taken, rest⟩ := eq_ok_of_bind removed
    obtain ⟨events, _, rest⟩ := eq_ok_of_bind rest
    cases rest
    exact Recency.cells_remove taken

theorem cells_popOldest {pair : Option (K × V)} (popped : s.popOldest = .ok (pair, s')) :
    s'.order.cells = s.order.cells := by
  obtain ⟨⟨key, order⟩, taken, rest⟩ := eq_ok_of_bind popped
  have same := Recency.cells_popBack taken
  cases key <;>
  · cases rest
    exact same

theorem Represents.place_of_entry (r : s.Represents nodes) (found : s.map[key]? = some entry) :
    ∃ held, (entry.slot, held) ∈ nodes.places ∧ (held == key) = true := by
  obtain ⟨held, here⟩ := r.found found
  obtain ⟨same, front, back, shape, _⟩ := Lru.pair?_eq_some here
  exact ⟨held, List.mem_map.mpr ⟨(held, entry), by simp [shape], rfl⟩, same⟩

variable [EquivBEq K] [LawfulHashable K]

theorem Represents.consistent (r : s.Represents nodes) : s.consistent = true := by
  have entries : ∀ pair ∈ s.map.toList, (s.order.key? pair.2.slot == some pair.1) = true := by
    intro pair member
    have found := (Std.HashMap.mem_toList_iff_getKey?_eq_some_and_getElem?_eq_some.mp member).2
    obtain ⟨held, place, same⟩ := r.place_of_entry found
    simp only [r.order.key? place]
    exact same
  have fits := r.fits
  simp only [Shard.consistent, r.order.wellLinked, r.order.length, r.size, Nodes.length_places,
    BEq.rfl, fits, decide_true, Bool.true_and]
  exact List.all_eq_true.mpr entries

/-- A key that leaves the order by its end still has its entry in the map. -/
theorem Represents.mem_of_popBack (r : s.Represents nodes) {order : Recency K}
    (popped : s.order.popBack = .ok (some key, order)) : key ∈ s.map := by
  rcases List.eq_nil_or_concat' nodes with rfl | ⟨front, node, rfl⟩
  · rw [Recency.Holds.popBack_nil r.order] at popped
    cases popped
  · obtain ⟨order', same, _⟩ := r.popBack
    rw [same] at popped
    cases popped
    exact Std.HashMap.mem_iff_isSome_getElem?.mpr (by simp [r.oldest.2])

theorem Represents.mem_keys (r : s.Represents nodes) (key : K) :
    key ∈ s.map ↔ ∃ held ∈ s.keys, (held == key) = true := by
  rw [r.mem_map, r.keys, Lru.pair?, List.find?_isSome]
  simp

theorem Sound.agrees (sound : s.Sound n) : s.Agrees := by
  obtain ⟨l, nodes, r, _⟩ := sound.intact
  have size : s.map.size = s.keys.length := by rw [r.size, r.keys, List.length_map]
  refine ⟨r.mem_keys, ?_, size, ?_, ?_, fun key order => r.mem_of_popBack, ?_, ?_,
    sound.cells_le, r.consistent⟩
  · rw [r.keys]
    exact List.pairwise_map.mpr r.distinct
  · intro key entry found
    obtain ⟨held, place, same⟩ := r.place_of_entry found
    obtain ⟨node, met, carried⟩ := r.order.met place
    exact ⟨node, Recency.get?_of_mem_walk met, carried ▸ same, met⟩
  · intro key entry found
    obtain ⟨held, here⟩ := r.found found
    obtain ⟨front, back, order, _⟩ := r.place here
    obtain ⟨moved, same, _⟩ := order.moveToFront
    rw [same]
  · intro s' popped
    obtain ⟨_, same, _⟩ := r.models.popOldest
    rw [same] at popped
    have nothing : nodes.pairs = [] := List.getLast?_eq_none_iff.mp (congrArg Prod.fst
      (Except.ok.inj popped))
    have none := List.map_eq_nil_iff.mp nothing
    subst none
    exact ⟨r.keys, by rw [Std.HashMap.isEmpty_eq_size_eq_zero, r.size]; rfl⟩
  · rw [r.size]
    exact r.fits

theorem Represents.cells_insert (r : s.Represents nodes) (small : s.order.cells ≤ s.capacity)
    {given : V} (inserted : s.insert key given = .ok (value, s')) :
    s'.order.cells ≤ s.capacity := by
  unfold insert at inserted
  split at inserted
  · obtain ⟨events, _, rest⟩ := eq_ok_of_bind inserted
    cases rest
    exact Recency.cells_moveToFront s.order _ ▸ small
  · split at inserted
    · cases inserted
      exact small
    · rename_i positive
      obtain ⟨s₁, made, rest⟩ := eq_ok_of_bind inserted
      obtain ⟨events, _, rest⟩ := eq_ok_of_bind rest
      obtain ⟨⟨slot, order⟩, pushed, rest⟩ := eq_ok_of_bind rest
      cases rest
      obtain ⟨left, r₁, room, _⟩ := (r.makeRoom (Nat.pos_of_ne_zero positive)).of_ok made
      have same := cells_makeRoom made
      have grown := r₁.order.cells_pushFront pushed
      rw [Nodes.length_places] at grown
      simp only
      omega

theorem Models.cells_step (m : s.Models l) (small : s.order.cells ≤ s.capacity) {op : Op K V}
    {answer : Answer K V} (stepped : s.step op = .ok (answer, s')) :
    s'.order.cells ≤ s.capacity := by
  cases op with
  | insert key given =>
    obtain ⟨nodes, r, _⟩ := m
    obtain ⟨⟨old, s₁⟩, inserted, same⟩ := eq_ok_of_bind stepped
    cases same
    exact r.cells_insert small inserted
  | get key =>
    obtain ⟨⟨value, s₁⟩, got, same⟩ := eq_ok_of_bind stepped
    cases same
    exact cells_get got ▸ small
  | remove key =>
    obtain ⟨⟨value, s₁⟩, removed, same⟩ := eq_ok_of_bind stepped
    cases same
    exact cells_remove removed ▸ small
  | popOldest =>
    obtain ⟨⟨pair, s₁⟩, popped, same⟩ := eq_ok_of_bind stepped
    cases same
    exact cells_popOldest popped ▸ small
  | clear =>
    obtain ⟨s₁, cleared, same⟩ := eq_ok_of_bind stepped
    obtain ⟨events, _, rest⟩ := eq_ok_of_bind cleared
    cases same
    cases rest
    exact Nat.zero_le _
  | hitRatio =>
    obtain ⟨ratio, _, same⟩ := eq_ok_of_bind stepped
    cases same
    exact small
  | peek | peekOldest | rank | contains | metrics | describe =>
    cases stepped
    exact small

/-- Every operation returns, the three that show counters included. -/
theorem Models.step_returns (m : s.Models l) (counts : ∀ event, s.events.count event ≤ n)
    (lookups : s.events.getHits + s.events.getMisses ≤ n) (room : n + 1 < Word.bound)
    (op : Op K V) :
    ∃ answer s', s.step op = .ok (answer, s') ∧
      s.Reaches (l.step s.capacity op).2 (l.events s.capacity op) s' := by
  by_cases entries : op.onEntries = true
  · obtain ⟨⟨answer, s'⟩, stepped, _, reached⟩ := (m.step op entries).returns
      (CacheEvents.not_full_of_count_le (fun event _ => counts event) room)
    exact ⟨answer, s', stepped, reached⟩
  · cases op with
    | metrics => exact ⟨_, s, rfl, m.unchanged⟩
    | describe => exact ⟨_, s, rfl, m.unchanged⟩
    | hitRatio =>
      have fits : s.metrics.getHits + s.metrics.getMisses < Word.bound :=
        Nat.lt_of_le_of_lt lookups (by omega)
      have shown : ∃ ratio, s.metrics.hitRatio = .ok ratio := by
        rw [CacheMetrics.hitRatio, Word.add_of_lt fits]
        exact ⟨_, rfl⟩
      obtain ⟨ratio, shown⟩ := shown
      exact ⟨.ratio ratio, s, by rw [Shard.step, shown]; rfl, m.unchanged⟩
    | _ => exact absurd rfl entries

theorem Sound.step (sound : s.Sound n) (room : n + 1 < Word.bound) (op : Op K V) :
    ∃ answer s', s.step op = .ok (answer, s') ∧ s'.Sound (n + 1) ∧ s'.capacity = s.capacity := by
  obtain ⟨l, m⟩ := sound.intact
  obtain ⟨answer, s', stepped, reached⟩ := m.step_returns sound.counts sound.lookups room op
  have counted : ∀ event, s'.events.count event =
      s.events.count event + (l.events s.capacity op).count event := by
    intro event
    rw [reached.events, CacheEvents.count_tallyAll]
  refine ⟨answer, s', stepped, ⟨⟨_, reached.models⟩, ?_, ?_, ?_⟩, reached.capacity⟩
  · rw [reached.capacity]
    exact m.cells_step sound.cells_le stepped
  · intro event
    have before := sound.counts event
    have once := Lru.count_events_le_one l s.capacity op event
    rw [counted]
    omega
  · have before := sound.lookups
    have once := Lru.lookups_le_one l s.capacity op
    have hits := counted .getHit
    have misses := counted .getMiss
    simp only [CacheEvents.count] at hits misses
    omega

theorem Sound.run {ops : List (Op K V)} (sound : s.Sound n)
    (room : n + ops.length < Word.bound) :
    ∃ answers last, replay Shard.step s ops = .ok (answers, last) ∧
      last.Sound (n + ops.length) ∧ last.capacity = s.capacity := by
  induction ops generalizing s n with
  | nil => exact ⟨[], s, rfl, sound, rfl⟩
  | cons op ops ih =>
    rw [List.length_cons] at room
    obtain ⟨answer, s', stepped, sound', same⟩ := sound.step (by omega) op
    obtain ⟨answers, last, ran, final, same'⟩ := ih sound' (by omega)
    refine ⟨answer :: answers, last, replay_cons stepped ran, ?_, same'.trans same⟩
    rwa [List.length_cons, Nat.add_comm ops.length, ← Nat.add_assoc]

/-- Whatever is done to a shard, its map and its recency order belong together afterwards, so its
    check of itself never fails. -/
theorem run_agrees (capacity : Nat) (ops : List (Op K V)) (short : ops.length < Word.bound) :
    ∃ answers s, replay Shard.step (create capacity : Shard K V) ops = .ok (answers, s) ∧
      s.capacity = capacity ∧ s.Agrees := by
  have room : 0 + ops.length < Word.bound := by omega
  have created : (create capacity : Shard K V).Sound 0 := .create capacity
  obtain ⟨answers, s, ran, sound, same⟩ := created.run room
  exact ⟨answers, s, ran, same, sound.agrees⟩

def churningRun : List (Op Nat String) :=
  [.insert 1 "a", .insert 2 "b", .insert 3 "c", .remove 2, .insert 4 "d", .popOldest,
    .insert 5 "e", .get 4, .insert 6 "f", .hitRatio, .clear, .metrics, .insert 7 "g", .get 5]

theorem churningRun_agrees : churningRun.length < Word.bound ∧
    ∃ answers s, replay Shard.step (create 2 : Shard Nat String) churningRun = .ok (answers, s) ∧
      s.capacity = 2 ∧ s.Agrees :=
  ⟨by decide, run_agrees 2 churningRun (by decide)⟩

end Shard

end CacheAside
