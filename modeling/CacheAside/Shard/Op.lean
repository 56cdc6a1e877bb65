import CacheAside.Shard.Basic

namespace CacheAside.Shard

inductive Op (K V : Type) where
  | insert (key : K) (value : V)
  | get (key : K)
  | peek (key : K)
  | remove (key : K)
  | popOldest
  | peekOldest
  | rank (key : K)
  | contains (key : K)
  | clear
  | metrics
  | hitRatio
  | describe
  deriving DecidableEq, Repr

inductive Answer (K V : Type) where
  | value (value : Option V)
  | entry (entry : Option (K × V))
  | rank (rank : Option Nat)
  | flag (flag : Bool)
  | metrics (metrics : CacheMetrics)
  | ratio (ratio : Float)
  | text (text : String)
  | done

def step {K V : Type} [BEq K] [Hashable K] (s : Shard K V) :
    Op K V → Except Fault (Answer K V × Shard K V)
  | .insert key value => do let (old, s) ← s.insert key value; return (.value old, s)
  | .get key => do let (value, s) ← s.get key; return (.value value, s)
  | .peek key => return (.value (s.peek key), s)
  | .remove key => do let (value, s) ← s.remove key; return (.value value, s)
  | .popOldest => do let (entry, s) ← s.popOldest; return (.entry entry, s)
  | .peekOldest => return (.entry s.peekOldest, s)
  | .rank key => return (.rank (s.rank key), s)
  | .contains key => return (.flag (s.contains key), s)
  | .clear => do return (.done, ← s.clear)
  | .metrics => return (.metrics s.metrics, s)
  | .hitRatio => do return (.ratio (← s.metrics.hitRatio), s)
  | .describe => return (.text s.describe, s)

end CacheAside.Shard
