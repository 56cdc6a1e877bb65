import CacheAside.Metrics.ServiceCounters
import CacheAside.Store.Basic
import CacheAside.Word

namespace CacheAside

inductive StoreEvent where
  | hit
  | miss
  | insert
  | update
  | delete
  | failure
  deriving DecidableEq, Repr

namespace StoreMetrics

def count (m : StoreMetrics) : StoreEvent → UInt64
  | .hit => m.hits
  | .miss => m.misses
  | .insert => m.inserts
  | .update => m.updates
  | .delete => m.deletes
  | .failure => m.failures

def record (m : StoreMetrics) : StoreEvent → StoreMetrics
  | .hit => { m with hits := m.hits + 1 }
  | .miss => { m with misses := m.misses + 1 }
  | .insert => { m with inserts := m.inserts + 1 }
  | .update => { m with updates := m.updates + 1 }
  | .delete => { m with deletes := m.deletes + 1 }
  | .failure => { m with failures := m.failures + 1 }

theorem count_record (m : StoreMetrics) (event counted : StoreEvent) :
    (m.record event).count counted = m.count counted + if event = counted then 1 else 0 := by
  cases event <;> cases counted <;> simp [record, count]

end StoreMetrics

namespace ServiceCounters

def count (c : ServiceCounters) : ServiceEvent → UInt64
  | .get => c.totalGets
  | .cacheHit => c.cacheHits
  | .storeRead => c.storeReads
  | .write => c.writes
  | .delete => c.deletes
  | .error => c.errors

theorem count_record (c : ServiceCounters) (event counted : ServiceEvent) :
    (c.record event).count counted = c.count counted + if event = counted then 1 else 0 := by
  cases event <;> cases counted <;> simp [record, count]

end ServiceCounters

variable {σ ε : Type} [DecidableEq ε] {record : σ → ε → σ} {count : σ → ε → UInt64}

/-- Counters that go up by one with each event of their kind end up higher by the number of those
    events, as far as a word can tell. -/
theorem count_foldl_record
    (once : ∀ c event counted, count (record c event) counted =
      count c counted + if event = counted then 1 else 0)
    (events : List ε) (c : σ) (counted : ε) :
    count (events.foldl record c) counted = count c counted + .ofNat (events.count counted) := by
  induction events generalizing c with
  | nil => exact (UInt64.add_zero _).symm
  | cons event events ih =>
    rw [List.foldl_cons, ih, once, List.count_cons, UInt64.add_assoc, Nat.add_comm,
      UInt64.ofNat_add]
    by_cases same : event = counted
    · simp [same]
    · simp [same]

/-- Fewer events than a word can count are counted exactly. -/
theorem toNat_count_foldl_record
    (once : ∀ c event counted, count (record c event) counted =
      count c counted + if event = counted then 1 else 0)
    {events : List ε} {c : σ} {counted : ε} (zero : count c counted = 0)
    (few : events.count counted < Word.bound) :
    (count (events.foldl record c) counted).toNat = events.count counted := by
  rw [count_foldl_record once, zero, UInt64.zero_add]
  exact UInt64.toNat_ofNat_of_lt' few

end CacheAside
