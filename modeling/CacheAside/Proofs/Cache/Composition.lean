import CacheAside.Proofs.Cache.Product
import CacheAside.Proofs.Cache.Single
import CacheAside.Proofs.Shard.LastPut

namespace CacheAside

namespace Cache

variable {K V : Type} {op : Op K V}

theorem Op.shared_of_entries (entries : op.onEntries = true) : op.shared = true := by
  cases op with
  | put | get | remove | contains | peek | clear => rfl
  | len | metrics | hitRatio | describe | policy | shardCount | shardCapacities | shardIndex =>
    cases entries

end Cache

namespace Sharded

variable {K V : Type} [BEq K] [Hashable K] [ByteStream K]

/-- A run on a sharded cache as it was created, seen as one run on each of its shards: a shard ends
    as one of its capacity on its own would that serves the operations routed to it and the
    clearings, and it gives the answers to them. -/
structure ComposedOfShards (c : Sharded K V) (ops : List (Cache.Op K V))
    (answers : List (Cache.Answer V)) (c' : Sharded K V) : Prop where
  ran : replay interface.step c ops = .ok (answers, c')
  routing : c'.shardIndex = c.shardIndex
  capacities : c'.shardCapacities = c.shardCapacities
  parts : ∀ i capacity, c.shardCapacities[i]? = some capacity → ∃ s, c'.shards[i]? = some s ∧
    replay Shard.interface.step (Shard.create capacity) (ops.filter (·.concerns c.shardIndex i)) =
      .ok (Cache.answersOn c.shardIndex i ops answers, s)
  home : ∀ i s key, c'.shards[i]? = some s → s.contains key = true → c'.shardIndex key = i
  len : c'.len = .ok (c'.shards.toList.map Shard.len).sum
  exchange : ∀ before a b after ka kb, ops = before ++ a :: b :: after → a.key? = some ka →
    b.key? = some kb → c.shardIndex ka ≠ c.shardIndex kb → ∃ first x y last,
      first.length = before.length ∧ answers = first ++ x :: y :: last ∧
      replay interface.step c (before ++ b :: a :: after) = .ok (first ++ y :: x :: last, c')

variable {capacity shards : Nat} {c : Sharded K V}

omit [ByteStream K] in
theorem create_shards (created : create capacity shards = .ok c) :
    0 < capacity ∧ 0 < shards ∧ c.shards.toList = (shares capacity shards).map .create := by
  simp only [create] at created
  split_ifs at created with noCapacity noShards
  · cases created
    exact ⟨by omega, by omega, rfl⟩

omit [ByteStream K] in
theorem shardCapacities_eq (created : create capacity shards = .ok c) :
    c.shardCapacities = shares capacity shards := by
  obtain ⟨_, _, fresh⟩ := create_shards created
  rw [shardCapacities, fresh, List.map_map]
  exact List.map_id _

omit [ByteStream K] in
theorem build_of_create (created : create capacity shards = .ok c) :
    Cache.build capacity (.sharded shards) = .ok (.sharded c) := by
  rw [Cache.build, created]
  rfl

variable [LawfulBEq K] {c' : Sharded K V} {ops : List (Cache.Op K V)}
  {answers : List (Cache.Answer V)}

/-- What a shard holds was put there, so each key is held where it is routed to. -/
theorem home_of_servesAll (created : create capacity shards = .ok c)
    (entries : ∀ op ∈ ops, op.onEntries = true)
    (served : (Cache.sharded c).ServesAll ops answers (.sharded c')) {i : Nat} {s : Shard K V}
    {key : K} (here : c'.shards[i]? = some s) (held : s.contains key = true) :
    c.shardIndex key = i := by
  obtain ⟨positive, requested, fresh⟩ := create_shards created
  obtain ⟨capacity, ran⟩ := served.part fresh (Array.getElem?_toList.trans here)
  have room : 0 < s.capacity := shares_pos positive requested (List.mem_of_getElem? capacity)
  rw [Shard.contains_eq_isSome_peek] at held
  obtain ⟨value, shown⟩ := Option.isSome_iff_exists.mp held
  have entriesHere : ∀ op ∈ ops.filter (·.concerns c.shardIndex i), op.onEntries = true :=
    fun op member => entries op (List.mem_filter.mp member).1
  obtain ⟨before, after, shape, _⟩ := Shard.lastPut_of_create room entriesHere ran shown
  have member : .put key value ∈ ops.filter (·.concerns c.shardIndex i) := by
    rw [shape]
    exact List.mem_append_right _ List.mem_cons_self
  exact eq_of_beq (List.mem_filter.mp member).2

omit [LawfulBEq K] in
theorem len_of_servesAll (created : create capacity shards = .ok c)
    (fits : capacity < Word.bound)
    (served : (Cache.sharded c).ServesAll ops answers (.sharded c')) :
    c'.len = .ok (c'.shards.toList.map Shard.len).sum := by
  obtain ⟨positive, requested, _⟩ := create_shards created
  have capacities : (c'.shards.toList.map Shard.capacity).sum = capacity := by
    rw [← sum_shares positive requested, ← shardCapacities_eq created]
    exact congrArg List.sum served.capacities
  have within : (c'.shards.toList.map Shard.len).sum ≤ capacity := by
    rw [← capacities]
    apply List.sum_le_sum
    intro s member
    obtain ⟨l, m⟩ := served.wellFormed.intact s member
    exact m.len_le
  rw [len, Word.foldlM_add (by omega), Nat.zero_add]

theorem run_composed (created : create capacity shards = .ok c) (fits : capacity < Word.bound)
    (entries : ∀ op ∈ ops, op.onEntries = true) (short : ops.length < Word.bound) :
    ∃ answers c', c.ComposedOfShards ops answers c' := by
  have shared (more : List (Cache.Op K V)) (entries : ∀ op ∈ more, op.onEntries = true) :
      replay Cache.step (.sharded c) more = onState .sharded (replay interface.step c more) :=
    Cache.replay_sharded c fun op member => op.shared_of_entries (entries op member)
  obtain ⟨wf, _, within⟩ := Cache.build_wellFormed (build_of_create created)
  obtain ⟨answers, final, ran, served, _⟩ := wf.serveAll entries within (by omega)
  rw [shared ops entries] at ran
  obtain ⟨c', returned, rfl⟩ := onState_eq_ok ran
  have routing : c'.shardIndex = c.shardIndex := Cache.index_eq_of_frame served.frame
  refine ⟨answers, c', returned, routing, served.capacities, ?_, ?_,
    len_of_servesAll created fits served, ?_⟩
  · intro i share listed
    obtain ⟨_, _, fresh⟩ := create_shards created
    rw [shardCapacities_eq created] at listed
    have start : (Cache.sharded c).shards[i]? = some (.create share) := by
      change c.shards.toList[i]? = _
      rw [fresh, List.getElem?_map, listed]
      rfl
    obtain ⟨s, here, ran⟩ := served.parts i _ start
    exact ⟨s, Array.getElem?_toList.symm.trans here, ran⟩
  · intro i s key here held
    rw [routing]
    exact home_of_servesAll created entries served here held
  · intro before a b after ka kb split keyedA keyedB apart
    subst split
    obtain ⟨first, x, y, last, final, length, straight, swapped⟩ :=
      wf.exchange entries within (by omega) keyedA keyedB apart
    rw [shared _ entries, returned] at straight
    cases straight
    rw [shared _ fun op member => entries op (by simpa [or_left_comm] using member)] at swapped
    obtain ⟨c'', swapped, same⟩ := onState_eq_ok swapped
    cases same
    exact ⟨first, x, y, last, length, rfl, swapped⟩

/-- With one shard a cache cannot be told from one behind one lock, not even by its counters. -/
theorem one_shard_as_coarse (created : create capacity 1 = .ok c) (fits : capacity < Word.bound)
    (offered : ∀ op ∈ ops, op.onEntries = true ∨ op.onCounters = true)
    (short : ops.length < Word.bound) :
    ∃ answers c' d', replay interface.step c ops = .ok (answers, c') ∧
      replay Coarse.interface.step ⟨.create capacity⟩ ops = .ok (answers, d') := by
  obtain ⟨positive, _, _⟩ := create_shards created
  have shape : c = single (.make (min 1 capacity) 0) capacity (.create capacity) := by
    rw [create, if_neg (by omega), if_neg (by omega), shares_one positive] at created
    exact (Except.ok.inj created).symm
  have one : (Router.make (min 1 capacity) 0).shards = 1 := by
    show max (min 1 capacity) 1 = 1
    omega
  have counts : ∀ event, (Shard.create capacity : Shard K V).events.count event ≤ 0 := by
    intro event
    cases event <;> exact Nat.le_refl 0
  obtain ⟨answers, s', ran, single⟩ :=
    replay_single one fits offered (.create capacity) rfl counts (by omega)
  have described : ∀ op ∈ ops, op ≠ .describe := by
    rintro op member rfl
    rcases offered _ member with entries | counters
    · cases entries
    · cases counters
  have coarse := Coarse.replay_eq (.create capacity : Shard K V) described
  rw [ran] at coarse
  exact ⟨answers, _, ⟨s'⟩, shape ▸ single, coarse⟩

/-- A sharded cache is its shards side by side: no operation on an entry goes past them, each shard
    works through its own share of a run as if it were alone, and operations on different shards do
    not see each other. One shard makes a cache behind one lock, and building by policy adds nothing
    to either. -/
theorem composed_of_shards (positive : 0 < capacity) (requested : 0 < shards)
    (fits : capacity < Word.bound) :
    ∃ c : Sharded K V, create capacity shards = .ok c ∧
      (∀ key, c.shardIndex key < c.shardCount) ∧
      (∀ ops : List (Cache.Op K V), (∀ op ∈ ops, op.onEntries = true) →
        ops.length < Word.bound → ∃ answers c', c.ComposedOfShards ops answers c') ∧
      (shards = 1 → ∃ d : Coarse K V, Coarse.create capacity = .ok d ∧
        ∀ ops : List (Cache.Op K V),
          (∀ op ∈ ops, op.onEntries = true ∨ op.onCounters = true) → ops.length < Word.bound →
          ∃ answers c' d', replay interface.step c ops = .ok (answers, c') ∧
            replay Coarse.interface.step d ops = .ok (answers, d')) ∧
      ∀ ops : List (Cache.Op K V), (∀ op ∈ ops, op.shared = true) →
        (∃ built, Cache.build capacity (.sharded shards) = .ok built ∧
          replay Cache.step built ops = onState .sharded (replay interface.step c ops)) ∧
        ∃ d built, Coarse.create capacity = .ok d ∧ Cache.build capacity .coarse = .ok built ∧
          replay Cache.step built ops = onState .coarse (replay Coarse.interface.step d ops) := by
  obtain ⟨c, created⟩ : ∃ c : Sharded K V, create capacity shards = .ok c := by
    rw [create, if_neg (by omega), if_neg (by omega)]
    exact ⟨_, rfl⟩
  obtain ⟨d, coarse⟩ : ∃ d : Coarse K V, Coarse.create capacity = .ok d := by
    rw [Coarse.create, if_neg (by omega)]
    exact ⟨_, rfl⟩
  refine ⟨c, created, (Cache.build_wellFormed (build_of_create created)).1.routed,
    fun ops => run_composed created fits, ?_, ?_⟩
  · rintro rfl
    refine ⟨⟨.create capacity⟩, ?_, fun ops => one_shard_as_coarse created fits⟩
    rw [Coarse.create, if_neg (by omega)]
  · intro ops shared
    have built : Cache.build capacity .coarse = .ok (.coarse d) := by
      rw [Cache.build, coarse]
      rfl
    exact ⟨⟨_, build_of_create created, Cache.replay_sharded c shared⟩,
      d, _, coarse, built, Cache.replay_coarse d shared⟩

def spreadRun : List (Cache.Op Int64 String) :=
  [.put 1 "a", .put 2 "b", .put 3 "c", .get 1, .put 4 "d", .put 1 "e", .remove 2, .peek 3,
    .contains 4, .clear, .put 5 "f", .get 5]

theorem spreadRun_composed : 0 < 3 ∧ 0 < 8 ∧ 3 < Word.bound ∧
    ∃ c : Sharded Int64 String, create 3 8 = .ok c ∧
      ∃ answers c', c.ComposedOfShards spreadRun answers c' := by
  refine ⟨by decide, by decide, by decide, ?_⟩
  obtain ⟨c, created, _, composed, _⟩ :=
    composed_of_shards (K := Int64) (V := String) (show 0 < 3 by decide) (show 0 < 8 by decide)
      (by decide)
  exact ⟨c, created, composed spreadRun (by decide) (by decide)⟩

example : shares 3 8 = [1, 1, 1] ∧ shares 10 4 = [3, 3, 2, 2] := by decide

end Sharded

end CacheAside
