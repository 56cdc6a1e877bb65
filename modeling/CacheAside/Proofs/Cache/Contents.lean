import CacheAside.Cache.Basic
import CacheAside.Proofs.Cache.Distribution
import CacheAside.Proofs.Shard.Contents

namespace CacheAside

def CachePolicy.capacities (capacity : Nat) : CachePolicy → List Nat
  | .coarse => [capacity]
  | .sharded shards => Sharded.shares capacity shards

theorem CachePolicy.capacities_pos {capacity room : Nat} {policy : CachePolicy}
    (positive : 0 < capacity) (requested : policy ≠ .sharded 0)
    (member : room ∈ policy.capacities capacity) : 0 < room := by
  cases policy with
  | coarse =>
    obtain rfl := List.mem_singleton.mp member
    exact positive
  | sharded shards =>
    have nonzero : shards ≠ 0 := fun none => requested (by rw [none])
    exact Sharded.shares_pos positive (Nat.pos_of_ne_zero nonzero) member

theorem CachePolicy.sum_capacities {capacity : Nat} {policy : CachePolicy}
    (positive : 0 < capacity) (requested : policy ≠ .sharded 0) :
    (policy.capacities capacity).sum = capacity := by
  cases policy with
  | coarse => exact List.sum_singleton
  | sharded shards =>
    have nonzero : shards ≠ 0 := fun none => requested (by rw [none])
    exact Sharded.sum_shares positive (Nat.pos_of_ne_zero nonzero)

namespace Cache

variable {K V : Type} [BEq K] [Hashable K]

def shards : Cache K V → List (Shard K V)
  | coarse c => [c.shard]
  | sharded c => c.shards.toList

/-- Whether one more event of some kind listed would pass the end of a word in some shard. -/
def Full (c : Cache K V) (kinds : List CacheEvent) : Prop := ∃ s ∈ c.shards, s.events.Full kinds

def Within (c : Cache K V) (limit : CacheEvent → Nat) : Prop :=
  ∀ s ∈ c.shards, ∀ event, s.events.count event ≤ limit event

variable {c c' : Cache K V} {limit limit' : CacheEvent → Nat} {kinds : List CacheEvent}

theorem Within.mono (within : c.Within limit) (le : ∀ event, limit event ≤ limit' event) :
    c.Within limit' :=
  fun s member event => Nat.le_trans (within s member event) (le event)

theorem Full.mono {more : List CacheEvent} (full : c.Full kinds) (listed : kinds ⊆ more) :
    c.Full more := by
  obtain ⟨s, member, full⟩ := full
  exact ⟨s, member, full.mono listed⟩

theorem Within.not_full (within : c.Within limit)
    (room : ∀ event ∈ kinds, limit event + 1 < Word.bound) : ¬ c.Full kinds := by
  rintro ⟨s, member, event, listed, beyond⟩
  have counted := within s member event
  have fits := room event listed
  omega

theorem build_ok {capacity : Nat} {policy : CachePolicy} (positive : 0 < capacity)
    (requested : policy ≠ .sharded 0) : ∃ c : Cache K V, build capacity policy = .ok c := by
  cases policy with
  | coarse =>
    rw [build, Coarse.create, if_neg (Nat.ne_of_gt positive)]
    exact ⟨_, rfl⟩
  | sharded shards =>
    have nonzero : shards ≠ 0 := fun none => requested (by rw [none])
    rw [build, Sharded.create, if_neg (Nat.ne_of_gt positive), if_neg nonzero]
    exact ⟨_, rfl⟩

variable [ByteStream K]

def index : Cache K V → K → Nat
  | coarse _, _ => 0
  | sharded c, key => c.shardIndex key

def view (c : Cache K V) (key : K) : Option V := (c.shards[c.index key]?).bind (·.peek key)

structure WellFormed (c : Cache K V) : Prop where
  intact : ∀ s ∈ c.shards, s.Intact
  routed : ∀ key, c.index key < c.shards.length

structure Leaves (c : Cache K V) (kinds : List CacheEvent) (c' : Cache K V) : Prop where
  wellFormed : c'.WellFormed
  counted : ∀ limit, c.Within limit → c'.Within fun event => limit event + kinds.count event

def onShard {α : Type} (c : Cache K V) (key : K)
    (operation : Shard K V → Except Fault (α × Shard K V)) : Except Fault (α × Cache K V) :=
  match c with
  | coarse c => do
    let (answer, shard) ← operation c.shard
    return (answer, coarse ⟨shard⟩)
  | sharded c => do
    let (answer, shard) ← operation (← c.shardOf key)
    return (answer, sharded (c.withShard key shard))

theorem get_eq_onShard (c : Cache K V) (key : K) : c.get key = c.onShard key (·.get key) := by
  cases c with
  | coarse c => simp [get, Coarse.get, onShard]
  | sharded c => simp [get, Sharded.get, onShard]

theorem put_eq_onShard (c : Cache K V) (key : K) (value : V) :
    c.put key value = (do return (← c.onShard key (·.insert key value)).2) := by
  cases c with
  | coarse c => simp [put, Coarse.put, onShard]
  | sharded c => simp [put, Sharded.put, onShard]

theorem remove_eq_onShard (c : Cache K V) (key : K) :
    c.remove key = (do
      let (value, c) ← c.onShard key (·.remove key)
      return (value.isSome, c)) := by
  cases c with
  | coarse c => simp [remove, Coarse.remove, onShard]
  | sharded c => simp [remove, Sharded.remove, onShard]

structure Became (c : Cache K V) (key : K) (s' : Shard K V) (c' : Cache K V) : Prop where
  shards : c'.shards = c.shards.set (c.index key) s'
  index : ∀ key', c'.index key' = c.index key'

variable {key : K} {s s' : Shard K V}

theorem WellFormed.home (wf : c.WellFormed) (key : K) :
    ∃ s ∈ c.shards, c.shards[c.index key]? = some s := by
  have routed := wf.routed key
  exact ⟨_, List.getElem_mem routed, List.getElem?_eq_getElem routed⟩

theorem view_of_home (home : c.shards[c.index key]? = some s) : c.view key = s.peek key := by
  rw [view, home]
  rfl

theorem Became.view (became : c.Became key s' c') (home : c.shards[c.index key]? = some s)
    (key' : K) :
    c'.view key' = if c.index key' = c.index key then s'.peek key' else c.view key' := by
  obtain ⟨routed, _⟩ := List.getElem?_eq_some_iff.mp home
  rw [Cache.view, became.index, became.shards]
  by_cases same : c.index key' = c.index key
  · rw [same, List.getElem?_set_self routed, if_pos rfl]
    rfl
  · rw [List.getElem?_set_ne (Ne.symm same), if_neg same]
    rfl

/-- What the new shard shares with the one it came from, the caches share. -/
theorem Became.map_shards {α : Type} {f : Shard K V → α} (became : c.Became key s' c')
    (home : c.shards[c.index key]? = some s) (same : f s' = f s) :
    c'.shards.map f = c.shards.map f := by
  obtain ⟨routed, here⟩ := List.getElem?_eq_some_iff.mp home
  rw [became.shards, List.map_set, same, ← here, ← List.getElem_map f, List.set_getElem_self]
  rwa [List.length_map]

theorem Became.leaves (became : c.Became key s' c') (wf : c.WellFormed) (member : s ∈ c.shards)
    (left : s.Leaves kinds s') : c.Leaves kinds c' := by
  refine ⟨⟨?_, ?_⟩, ?_⟩
  · intro t present
    rw [became.shards] at present
    rcases List.mem_or_eq_of_mem_set present with present | rfl
    · exact wf.intact t present
    · exact left.intact
  · intro key'
    rw [became.index, became.shards, List.length_set]
    exact wf.routed key'
  · intro limit within t present event
    rw [became.shards] at present
    rcases List.mem_or_eq_of_mem_set present with present | rfl
    · exact Nat.le_add_right_of_le (within t present event)
    · exact Nat.le_trans (left.counted event) (Nat.add_le_add_right (within s member event) _)

theorem shardOf_of_home {c : Sharded K V}
    (home : (sharded c).shards[(sharded c).index key]? = some s) : c.shardOf key = .ok s := by
  have here : c.shards[c.shardIndex key]? = some s := Array.getElem?_toList.symm.trans home
  rw [Sharded.shardOf, here]

/-- What an operation does to the shard of a key it does to the cache. -/
theorem WellFormed.onShard {α : Type} (wf : c.WellFormed) (key : K)
    {operation : Shard K V → Except Fault (α × Shard K V)}
    {post : Shard K V → α × Shard K V → Prop}
    (spec : ∀ s : Shard K V, s.Intact → Yields (s.events.Full kinds) (post s) (operation s)) :
    Yields (c.Full kinds)
      (fun (answer, c') => ∃ s ∈ c.shards, c.shards[c.index key]? = some s ∧
        ∃ s', post s (answer, s') ∧ c.Became key s' c')
      (c.onShard key operation) := by
  obtain ⟨s, member, home⟩ := wf.home key
  have yields := (spec s (wf.intact s member)).mono
    (fun full => (⟨s, member, full⟩ : c.Full kinds)) fun _ holds => holds
  cases c with
  | coarse c =>
    obtain rfl : s = c.shard := List.mem_singleton.mp member
    apply yields.bind
    rintro ⟨answer, s'⟩ holds
    exact ⟨_, member, home, s', holds, rfl, fun _ => rfl⟩
  | sharded c =>
    simp only [Cache.onShard, shardOf_of_home home]
    apply yields.bind
    rintro ⟨answer, s'⟩ holds
    exact ⟨s, member, home, s', holds, Array.toList_setIfInBounds, fun _ => rfl⟩

theorem WellFormed.peek (wf : c.WellFormed) (key : K) : c.peek key = .ok (c.view key) := by
  obtain ⟨s, _, home⟩ := wf.home key
  rw [view_of_home home]
  cases c with
  | coarse c =>
    obtain rfl : c.shard = s := Option.some.inj home
    rfl
  | sharded c =>
    simp only [Cache.peek, Sharded.peek, shardOf_of_home home]
    rfl

theorem WellFormed.contains [EquivBEq K] [LawfulHashable K] (wf : c.WellFormed) (key : K) :
    c.contains key = .ok (c.view key).isSome := by
  obtain ⟨s, _, home⟩ := wf.home key
  rw [view_of_home home, ← s.contains_eq_isSome_peek]
  cases c with
  | coarse c =>
    obtain rfl : c.shard = s := Option.some.inj home
    rfl
  | sharded c =>
    simp only [Cache.contains, Sharded.contains, shardOf_of_home home]
    rfl

theorem build_shards {capacity : Nat} {policy : CachePolicy}
    (built : build capacity policy = .ok c) :
    c.shards = (policy.capacities capacity).map Shard.create ∧
      ∀ key, c.index key < (policy.capacities capacity).length := by
  cases policy with
  | coarse =>
    simp only [build, Coarse.create] at built
    split at built
    · cases built
    · cases built
      exact ⟨rfl, fun _ => Nat.zero_lt_one⟩
  | sharded shards =>
    simp only [build, Sharded.create] at built
    split_ifs at built
    · cases built
    · cases built
    · cases built
      refine ⟨rfl, ?_⟩
      intro key
      have routed := (Router.make (min shards capacity) 0).route_lt key
      have count : (Router.make (min shards capacity) 0).shards = min shards capacity :=
        Nat.max_eq_left (by omega)
      rw [CachePolicy.capacities, Sharded.shares, List.length_map, List.length_range]
      exact Nat.lt_of_lt_of_eq routed count

theorem build_wellFormed {capacity : Nat} {policy : CachePolicy}
    (built : build capacity policy = .ok c) :
    c.WellFormed ∧ (∀ key, c.view key = none) ∧ c.Within fun _ => 0 := by
  obtain ⟨shards, routed⟩ := build_shards built
  have fresh : ∀ s ∈ c.shards, ∃ capacity, s = .create capacity := by
    intro s member
    rw [shards] at member
    obtain ⟨capacity, _, rfl⟩ := List.mem_map.mp member
    exact ⟨capacity, rfl⟩
  have wf : c.WellFormed := by
    refine ⟨?_, fun key => by rw [shards, List.length_map]; exact routed key⟩
    intro s member
    obtain ⟨capacity, rfl⟩ := fresh s member
    exact .create capacity
  refine ⟨wf, ?_, ?_⟩
  · intro key
    obtain ⟨s, member, home⟩ := wf.home key
    obtain ⟨capacity, rfl⟩ := fresh s member
    rw [view_of_home home, (Shard.Models.create capacity).peek]
    rfl
  · intro s member event
    obtain ⟨capacity, rfl⟩ := fresh s member
    cases event <;> exact Nat.le_refl 0

variable [LawfulBEq K]

theorem WellFormed.get (wf : c.WellFormed) (key : K) :
    Yields (c.Full CacheEvent.lookups)
      (fun (value, c') => value = c.view key ∧ c.Leaves CacheEvent.lookups c' ∧
        ∀ key', c'.view key' = c.view key') (c.get key) := by
  rw [get_eq_onShard]
  apply (wf.onShard key fun s intact => intact.get key).mono id
  rintro ⟨value, c'⟩ ⟨s, member, home, s', ⟨same, left, kept⟩, became⟩
  refine ⟨by rw [view_of_home home, same], became.leaves wf member left, ?_⟩
  intro key'
  rw [became.view home]
  split
  · rename_i together
    rw [kept, view_of_home (together ▸ home)]
  · rfl

/-- After caching a value a key shows that value or what it showed before; an eviction may have
    taken it away. -/
theorem WellFormed.put (wf : c.WellFormed) (key : K) (value : V) :
    Yields (c.Full CacheEvent.arrivals)
      (fun c' => c.Leaves CacheEvent.arrivals c' ∧ ∀ key' value', c'.view key' = some value' →
        key' = key ∧ value' = value ∨ c.view key' = some value') (c.put key value) := by
  rw [put_eq_onShard]
  apply (wf.onShard key fun s intact => intact.insert key value).bind
  rintro ⟨_, c'⟩ ⟨s, member, home, s', ⟨left, kept⟩, became⟩
  refine ⟨became.leaves wf member left, ?_⟩
  intro key' value' found
  rw [became.view home] at found
  split at found
  · rename_i together
    rw [view_of_home (together ▸ home)]
    rcases kept key' value' found with ⟨same, rfl⟩ | before
    · exact .inl ⟨(eq_of_beq same).symm, rfl⟩
    · exact .inr before
  · exact .inr found

theorem WellFormed.remove (wf : c.WellFormed) (key : K) :
    Yields (c.Full CacheEvent.departures)
      (fun (_, c') => c.Leaves CacheEvent.departures c' ∧
        ∀ key', c'.view key' = if key == key' then none else c.view key') (c.remove key) := by
  rw [remove_eq_onShard]
  apply (wf.onShard key fun s intact => intact.remove key).bind
  rintro ⟨_, c'⟩ ⟨s, member, home, s', ⟨left, dropped⟩, became⟩
  refine ⟨became.leaves wf member left, ?_⟩
  intro key'
  rw [became.view home, dropped]
  by_cases same : key = key'
  · simp [same]
  · simp only [beq_iff_eq, same, if_false]
    split
    · rename_i together
      rw [view_of_home (together ▸ home)]
    · rfl

end Cache

end CacheAside
