import Mathlib.Data.List.Perm.Basic
import CacheAside.Proofs.Cache.Contents
import CacheAside.Proofs.Metrics.Total
import CacheAside.Proofs.Shard.Serving

namespace CacheAside

namespace Shard

variable {K V : Type} [BEq K] [Hashable K] {s s' : Shard K V} {events : List CacheEvent}

structure Counts (s : Shard K V) (events : List CacheEvent) (s' : Shard K V) : Prop where
  events : s'.events = s.events.tallyAll events
  capacity : s'.capacity = s.capacity

variable [EquivBEq K]

theorem Intact.get_counts (intact : s.Intact) (key : K) :
    Yields (s.events.Full CacheEvent.all)
      (fun (value, s') => s.Counts [if value.isSome then .getHit else .getMiss] s')
      (s.get key) := by
  obtain ⟨l, m⟩ := intact
  refine (m.get key).mono (fun full => full.mono (CacheEvent.subset_all _)) ?_
  rintro ⟨value, s'⟩ ⟨same, reached⟩
  have counted : l.events s.capacity (.get key) =
      [if value.isSome then .getHit else .getMiss] := by
    rw [same, Lru.events, Lru.get]
    cases l.pair? key <;> rfl
  exact ⟨counted ▸ reached.events, reached.capacity⟩

variable [LawfulHashable K]

/-- A key that is not there comes in as a new one, if need be in the place of another. -/
theorem Intact.insert_counts (intact : s.Intact) (key : K) (value : V) :
    Yields (s.events.Full CacheEvent.all)
      (fun (_, s') => s.peek key = none → 0 < s.capacity →
        s.Counts [.insertNew] s' ∨ s.Counts [.eviction, .insertNew] s') (s.insert key value) := by
  obtain ⟨l, m⟩ := intact
  refine (m.insert key value).mono (fun full => full.mono (CacheEvent.subset_all _)) ?_
  rintro ⟨old, s'⟩ ⟨_, reached⟩ absent positive
  rw [m.peek, Lru.peek, Option.map_eq_none_iff] at absent
  have counted : l.events s.capacity (.insert key value) =
      l.evictions s.capacity ++ [.insertNew] := by
    simp [Lru.events, absent, Nat.ne_of_gt positive]
  have counts : s.Counts (l.evictions s.capacity ++ [.insertNew]) s' :=
    ⟨counted ▸ reached.events, reached.capacity⟩
  unfold Lru.evictions at counts
  split at counts
  · exact .inr counts
  · exact .inl counts

theorem Intact.remove_counts (intact : s.Intact) (key : K) :
    Yields (s.events.Full CacheEvent.all)
      (fun (value, s') => s.Counts (if value.isSome then [.removal] else []) s')
      (s.remove key) := by
  obtain ⟨l, m⟩ := intact
  refine (m.remove key).mono (fun full => full.mono (CacheEvent.subset_all _)) ?_
  rintro ⟨value, s'⟩ ⟨same, reached⟩
  have counted : l.events s.capacity (.remove key) = if value.isSome then [.removal] else [] := by
    rw [same, Lru.events, Lru.remove, Lru.peek, Option.isSome_map]
  exact ⟨counted ▸ reached.events, reached.capacity⟩

end Shard

namespace Cache

variable {K V : Type} [BEq K] [Hashable K] {c c' : Cache K V} {events : List CacheEvent}

def tally (c : Cache K V) (event : CacheEvent) : Nat :=
  (c.shards.map fun s => s.events.count event).sum

structure Counts (c : Cache K V) (events : List CacheEvent) (c' : Cache K V) : Prop where
  tally : ∀ event, c'.tally event = c.tally event + events.count event
  capacities : c'.shards.map Shard.capacity = c.shards.map Shard.capacity

theorem roomy_of_capacities (same : c'.shards.map Shard.capacity = c.shards.map Shard.capacity)
    (roomy : ∀ s ∈ c.shards, 0 < s.capacity) : ∀ s ∈ c'.shards, 0 < s.capacity := by
  intro s member
  have listed : s.capacity ∈ c'.shards.map Shard.capacity := List.mem_map_of_mem member
  rw [same] at listed
  obtain ⟨before, member, capacity⟩ := List.mem_map.mp listed
  exact capacity ▸ roomy before member

theorem Counts.roomy (counts : c.Counts events c') (roomy : ∀ s ∈ c.shards, 0 < s.capacity) :
    ∀ s ∈ c'.shards, 0 < s.capacity := roomy_of_capacities counts.capacities roomy

theorem within_tally (c : Cache K V) : c.Within c.tally :=
  fun _ member _ => List.le_sum_of_mem (List.mem_map_of_mem member)

theorem metrics_yields (c : Cache K V) :
    Yields (¬ (CacheMetrics.sum (c.shards.map Shard.metrics)).Fits)
      (· = CacheMetrics.sum (c.shards.map Shard.metrics)) c.metrics := by
  cases c with
  | coarse c => exact rfl
  | sharded c => exact CacheMetrics.total_yields _

theorem count_sum_metrics (c : Cache K V) (event : CacheEvent) :
    (CacheMetrics.sum (c.shards.map Shard.metrics)).count event = c.tally event := by
  rw [CacheMetrics.count_sum, List.map_map]
  rfl

variable [ByteStream K] {key : K} {s s' : Shard K V}

/-- One shard for another moves what the shards add up to by what the two are apart. -/
theorem Became.sum_map (became : c.Became key s' c') (home : c.shards[c.index key]? = some s)
    (f : Shard K V → Nat) :
    (c'.shards.map f).sum + f s = (c.shards.map f).sum + f s' := by
  obtain ⟨routed, here⟩ := List.getElem?_eq_some_iff.mp home
  have before := (List.getElem_cons_eraseIdx_perm routed).map f
  have after := (List.set_perm_cons_eraseIdx routed s').map f
  rw [became.shards, after.sum_eq, ← before.sum_eq, here, List.map_cons, List.map_cons,
    List.sum_cons, List.sum_cons]
  omega

theorem Became.counts (became : c.Became key s' c') (home : c.shards[c.index key]? = some s)
    (counted : s.Counts events s') : c.Counts events c' := by
  refine ⟨?_, became.map_shards home counted.capacity⟩
  intro event
  have moved := became.sum_map home fun s => s.events.count event
  rw [counted.events, CacheEvents.count_tallyAll] at moved
  rw [tally, tally]
  omega

theorem WellFormed.len_le (wf : c.WellFormed) :
    (c.shards.map Shard.len).sum ≤ (c.shards.map Shard.capacity).sum := by
  refine List.sum_le_sum ?_
  intro s member
  obtain ⟨l, m⟩ := wf.intact s member
  exact m.len_le

/-- The metrics of a cache are those of its shards together. -/
theorem WellFormed.sums_metrics (wf : c.WellFormed) (counts : ∀ event, c.tally event < Word.bound)
    (capacity : (c.shards.map Shard.capacity).sum < Word.bound) :
    c.metrics = .ok (CacheMetrics.sum (c.shards.map Shard.metrics)) := by
  have fits : (CacheMetrics.sum (c.shards.map Shard.metrics)).Fits := by
    refine ⟨fun event => count_sum_metrics c event ▸ counts event, ?_, ?_⟩
    · rw [CacheMetrics.len_sum, List.map_map]
      exact Nat.lt_of_le_of_lt wf.len_le capacity
    · rw [CacheMetrics.capacity_sum, List.map_map]
      exact capacity
  obtain ⟨_, shown, rfl⟩ := c.metrics_yields.returns (Classical.not_not.mpr fits)
  exact shown

theorem WellFormed.metrics (wf : c.WellFormed) (counts : ∀ event, c.tally event < Word.bound)
    (capacity : (c.shards.map Shard.capacity).sum < Word.bound) :
    ∃ m, c.metrics = .ok m ∧ ∀ event, m.count event = c.tally event :=
  ⟨_, wf.sums_metrics counts capacity, c.count_sum_metrics⟩

omit [ByteStream K] in
theorem build_requested {capacity : Nat} {policy : CachePolicy}
    (built : build capacity policy = .ok c) : 0 < capacity ∧ policy ≠ .sharded 0 := by
  cases policy with
  | coarse =>
    simp only [build, Coarse.create] at built
    split at built
    · cases built
    · exact ⟨Nat.pos_of_ne_zero ‹_›, by simp⟩
  | sharded shards =>
    simp only [build, Sharded.create] at built
    split_ifs at built with noCapacity noShards
    · cases built
    · cases built
    · exact ⟨Nat.pos_of_ne_zero noCapacity, fun same => noShards (by cases same; rfl)⟩

theorem build_counters {capacity : Nat} {policy : CachePolicy}
    (built : build capacity policy = .ok c) :
    (∀ event, c.tally event = 0) ∧ (∀ s ∈ c.shards, 0 < s.capacity) ∧
      (c.shards.map Shard.capacity).sum = capacity := by
  obtain ⟨positive, requested⟩ := build_requested built
  have shards := (build_shards built).1
  have capacities : c.shards.map Shard.capacity = policy.capacities capacity := by
    rw [shards, List.map_map]
    exact List.map_id _
  refine ⟨?_, ?_, ?_⟩
  · intro event
    rw [tally, shards, List.map_map]
    refine List.sum_eq_zero ?_
    intro n member
    obtain ⟨_, _, rfl⟩ := List.mem_map.mp member
    cases event <;> rfl
  · intro s member
    exact CachePolicy.capacities_pos positive requested
      (capacities ▸ List.mem_map_of_mem member)
  · rw [capacities, CachePolicy.sum_capacities positive requested]

variable [LawfulBEq K]

theorem WellFormed.get_counts (wf : c.WellFormed) {value : Option V}
    (got : c.get key = .ok (value, c')) :
    c.Counts [if value.isSome then .getHit else .getMiss] c' := by
  rw [get_eq_onShard] at got
  obtain ⟨s, _, home, s', counted, became⟩ :=
    (wf.onShard key fun s intact => intact.get_counts key).of_ok got
  exact became.counts home counted

theorem WellFormed.put_counts (wf : c.WellFormed) {value : V}
    (roomy : ∀ s ∈ c.shards, 0 < s.capacity) (absent : c.view key = none)
    (put : c.put key value = .ok c') :
    c.Counts [.insertNew] c' ∨ c.Counts [.eviction, .insertNew] c' := by
  rw [put_eq_onShard] at put
  obtain ⟨⟨old, c₁⟩, done, same⟩ := eq_ok_of_bind put
  cases same
  obtain ⟨s, member, home, s', counts, became⟩ :=
    (wf.onShard key fun s intact => intact.insert_counts key value).of_ok done
  exact (counts (view_of_home home ▸ absent) (roomy s member)).imp (became.counts home)
    (became.counts home)

theorem WellFormed.remove_counts (wf : c.WellFormed) {found : Bool}
    (removed : c.remove key = .ok (found, c')) :
    c.Counts (if found then [.removal] else []) c' := by
  rw [remove_eq_onShard] at removed
  obtain ⟨⟨value, c₁⟩, done, same⟩ := eq_ok_of_bind removed
  cases same
  obtain ⟨s, _, home, s', counted, became⟩ :=
    (wf.onShard key fun s intact => intact.remove_counts key).of_ok done
  exact became.counts home counted

end Cache

end CacheAside
