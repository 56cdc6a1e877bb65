import CacheAside.Metrics.CacheEvents

namespace CacheAside

structure CacheMetrics extends CacheEvents where
  len : Nat := 0
  capacity : Nat := 0
  deriving DecidableEq, Repr, Inhabited

namespace CacheMetrics

def ofEvents (events : CacheEvents) (len capacity : Nat) : CacheMetrics :=
  { events with len, capacity }

/-- Adds field by field; the sum faults as soon as one field is no word. -/
def add (a b : CacheMetrics) : Except Fault CacheMetrics := do
  return {
    getHits := ← Word.add a.getHits b.getHits
    getMisses := ← Word.add a.getMisses b.getMisses
    inserts := ← Word.add a.inserts b.inserts
    updates := ← Word.add a.updates b.updates
    evictions := ← Word.add a.evictions b.evictions
    removes := ← Word.add a.removes b.removes
    clears := ← Word.add a.clears b.clears
    len := ← Word.add a.len b.len
    capacity := ← Word.add a.capacity b.capacity }

def total (parts : List CacheMetrics) : Except Fault CacheMetrics :=
  parts.foldlM add {}

def hitRatio (m : CacheMetrics) : Except Fault Float := do
  let lookups ← Word.add m.getHits m.getMisses
  return if lookups = 0 then 0.0 else m.getHits.toUInt64.toFloat / lookups.toUInt64.toFloat

end CacheMetrics

end CacheAside
