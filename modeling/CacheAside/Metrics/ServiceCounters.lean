namespace CacheAside

inductive ServiceEvent where
  | get
  | cacheHit
  | storeRead
  | write
  | delete
  | error
  deriving DecidableEq, Repr

/-- How often each event has happened. These counters wrap around where a word ends. -/
structure ServiceCounters where
  totalGets : UInt64 := 0
  cacheHits : UInt64 := 0
  storeReads : UInt64 := 0
  writes : UInt64 := 0
  deletes : UInt64 := 0
  errors : UInt64 := 0
  deriving DecidableEq, Repr, Inhabited

namespace ServiceCounters

def record (c : ServiceCounters) : ServiceEvent → ServiceCounters
  | .get => { c with totalGets := c.totalGets + 1 }
  | .cacheHit => { c with cacheHits := c.cacheHits + 1 }
  | .storeRead => { c with storeReads := c.storeReads + 1 }
  | .write => { c with writes := c.writes + 1 }
  | .delete => { c with deletes := c.deletes + 1 }
  | .error => { c with errors := c.errors + 1 }

end ServiceCounters

end CacheAside
