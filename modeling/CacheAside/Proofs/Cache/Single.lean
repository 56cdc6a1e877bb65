import CacheAside.Proofs.Cache.Distribution
import CacheAside.Proofs.Metrics.Total
import CacheAside.Proofs.Shard.Serving

namespace CacheAside

def Cache.Op.onCounters {K V : Type} : Cache.Op K V → Bool
  | .len | .metrics => true
  | _ => false

theorem CacheMetrics.total_single {events : CacheEvents} {len capacity : Nat}
    (counts : ∀ event, events.count event < Word.bound) (lenFits : len < Word.bound)
    (capacityFits : capacity < Word.bound) :
    total [.ofEvents events len capacity] = .ok (.ofEvents events len capacity) := by
  have whole : sum [.ofEvents events len capacity] = .ofEvents events len capacity := rfl
  have fits : (sum [.ofEvents events len capacity]).Fits := ⟨counts, lenFits, capacityFits⟩
  obtain ⟨m, shown, same⟩ := (total_yields [.ofEvents events len capacity]).returns
    (Classical.not_not.mpr fits)
  rw [shown, same, whole]

namespace Sharded

variable {K V : Type} [BEq K] [Hashable K]

def single (router : Router) (capacity : Nat) (s : Shard K V) : Sharded K V :=
  ⟨#[s], router, capacity⟩

variable [ByteStream K] {router : Router} {capacity : Nat} {s s' : Shard K V} {op : Cache.Op K V}

theorem shardIndex_single (one : router.shards = 1) (key : K) :
    (single router capacity s).shardIndex key = 0 := by
  have below := router.route_lt key
  rw [one] at below
  exact Nat.lt_one_iff.mp below

theorem shardOf_single (one : router.shards = 1) (key : K) :
    (single router capacity s).shardOf key = pure s := by
  rw [shardOf, shardIndex_single one]
  rfl

theorem withShard_single (one : router.shards = 1) (key : K) :
    (single router capacity s).withShard key s' = single router capacity s' := by
  rw [withShard, shardIndex_single one]
  rfl

theorem step_single (one : router.shards = 1) (entries : op.onEntries = true) :
    interface.step (single router capacity s) op =
      onState (single router capacity) (Shard.interface.step s op) := by
  cases op with
  | put | get | remove | contains | peek =>
    simp [Interface.step, interface, Shard.interface, put, get, remove, contains, peek, onState,
      shardOf_single one, withShard_single one]
  | clear =>
    simp [Interface.step, interface, Shard.interface, clear, onState, single]
  | len | metrics | hitRatio | describe | policy | shardCount | shardCapacities | shardIndex =>
    cases entries

/-- With one shard the sums over the shards are what that shard shows. -/
theorem step_single_counters (counters : op.onCounters = true) (lenFits : s.len < Word.bound)
    (same : s.capacity = capacity) (capacityFits : capacity < Word.bound)
    (counts : ∀ event, s.events.count event < Word.bound) :
    interface.step (single router capacity s) op =
      onState (single router capacity) (Shard.interface.step s op) := by
  cases op with
  | len =>
    have sum : len (single router capacity s) = .ok s.len := by
      rw [len, single]
      exact (Word.foldlM_add (by simpa using lenFits)).trans (by simp)
    simp only [Interface.step, interface, Shard.interface, sum, same]
    rfl
  | metrics =>
    have sum : metrics (single router capacity s) = .ok s.metrics :=
      CacheMetrics.total_single counts lenFits (same ▸ capacityFits)
    simp only [Interface.step, interface, Shard.interface, sum]
    rfl
  | put | get | remove | contains | peek | clear | hitRatio | describe | policy | shardCount
    | shardCapacities | shardIndex => cases counters

end Sharded

variable {K V : Type} [BEq K] [Hashable K] [LawfulBEq K] {s : Shard K V} {op : Cache.Op K V}
  {ops : List (Cache.Op K V)} {n : Nat}

theorem Shard.Intact.answers (intact : s.Intact)
    (offered : op.onEntries = true ∨ op.onCounters = true)
    (counts : ∀ event, s.events.count event ≤ n) (room : n + 1 < Word.bound) :
    ∃ answer s', Shard.interface.step s op = .ok (answer, s') ∧ s'.Intact ∧
      s'.capacity = s.capacity ∧ ∀ event, s'.events.count event ≤ n + 1 := by
  rcases offered with entries | counters
  · have notFull : ¬ s.events.Full CacheEvent.all :=
      CacheEvents.not_full_of_count_le (fun event _ => counts event) room
    obtain ⟨⟨answer, s'⟩, stepped, _, same, left⟩ := (intact.serve entries).returns notFull
    refine ⟨answer, s', stepped, left.intact, same, ?_⟩
    intro event
    have counted := left.counted event
    have before := counts event
    rw [CacheEvent.count_all] at counted
    omega
  · have counted : ∀ event, s.events.count event ≤ n + 1 :=
      fun event => Nat.le_succ_of_le (counts event)
    cases op with
    | len => exact ⟨.size s.len s.capacity, s, rfl, intact, rfl, counted⟩
    | metrics => exact ⟨.metrics s.metrics, s, rfl, intact, rfl, counted⟩
    | put | get | remove | contains | peek | clear | hitRatio | describe | policy | shardCount
      | shardCapacities | shardIndex => cases counters

variable [ByteStream K] {router : Router} {capacity : Nat}

/-- A run on one shard gives the answers of that shard, its counters included. -/
theorem Sharded.replay_single (one : router.shards = 1) (fits : capacity < Word.bound)
    (offered : ∀ op ∈ ops, op.onEntries = true ∨ op.onCounters = true) (intact : s.Intact)
    (same : s.capacity = capacity) (counts : ∀ event, s.events.count event ≤ n)
    (short : n + ops.length < Word.bound) :
    ∃ answers s', replay Shard.interface.step s ops = .ok (answers, s') ∧
      replay interface.step (single router capacity s) ops =
        .ok (answers, single router capacity s') := by
  induction ops generalizing s n with
  | nil => exact ⟨[], s, rfl, rfl⟩
  | cons op ops ih =>
    rw [List.length_cons] at short
    have first := offered op List.mem_cons_self
    obtain ⟨answer, s₁, stepped, intact₁, kept, counts₁⟩ :=
      intact.answers first counts (by omega)
    obtain ⟨answers, s', ran, ran'⟩ :=
      ih (fun op member => offered op (List.mem_cons_of_mem _ member)) intact₁ (kept.trans same)
        counts₁ (by omega)
    have alike : interface.step (single router capacity s) op =
        onState (single router capacity) (Shard.interface.step s op) := by
      rcases first with entries | counters
      · exact step_single one entries
      · obtain ⟨l, m⟩ := intact
        have len := m.len_le
        exact step_single_counters counters (by omega) same fits
          fun event => Nat.lt_of_le_of_lt (counts event) (by omega)
    rw [stepped] at alike
    exact ⟨answer :: answers, s', replay_cons stepped ran, replay_cons alike ran'⟩

end CacheAside
