import CacheAside.Cache.Basic

namespace CacheAside.Cache

inductive Op (K V : Type) where
  | put (key : K) (value : V)
  | get (key : K)
  | remove (key : K)
  | contains (key : K)
  | peek (key : K)
  | clear
  | len
  | metrics
  | hitRatio
  | describe
  | policy
  | shardCount
  | shardCapacities
  | shardIndex (key : K)
  deriving DecidableEq, Repr

inductive Form where
  | coarse
  | sharded
  | byPolicy
  deriving DecidableEq, Repr

/-- What a form of cache can be asked. Only a variant made by name can be peeked at, only a sharded
    one shows its shards, and only a cache made by policy tells its policy. -/
def Form.offers {K V : Type} : Form → Op K V → Bool
  | .byPolicy, .peek _ => false
  | form, .policy => form == .byPolicy
  | form, .shardCount | form, .shardCapacities | form, .shardIndex _ => form == .sharded
  | _, _ => true

inductive Answer (V : Type) where
  | value (value : Option V)
  | flag (flag : Bool)
  | size (len capacity : Nat)
  | metrics (metrics : CacheMetrics)
  | ratio (ratio : Float)
  | text (text : String)
  | policy (policy : CachePolicy)
  | number (number : Nat)
  | numbers (numbers : List Nat)
  | done
  | unsupported

variable {K V : Type} [BEq K] [Hashable K] [ByteStream K]

def step (c : Cache K V) : Op K V → Except Fault (Answer V × Cache K V)
  | .put key value => do return (.done, ← c.put key value)
  | .get key => do let (value, c) ← c.get key; return (.value value, c)
  | .remove key => do let (found, c) ← c.remove key; return (.flag found, c)
  | .contains key => do return (.flag (← c.contains key), c)
  | .peek key => do return (.value (← c.peek key), c)
  | .clear => do return (.done, ← c.clear)
  | .len => do return (.size (← c.len) c.capacity, c)
  | .metrics => do return (.metrics (← c.metrics), c)
  | .hitRatio => do return (.ratio (← (← c.metrics).hitRatio), c)
  | .describe => return (.text c.describe, c)
  | .policy => return (.policy c.policy, c)
  | .shardCount => return (sharding c fun s => .number s.shardCount, c)
  | .shardCapacities => return (sharding c fun s => .numbers s.shardCapacities, c)
  | .shardIndex key => return (sharding c fun s => .number (s.shardIndex key), c)
where
  sharding (c : Cache K V) (ask : Sharded K V → Answer V) : Answer V :=
    match c with
    | coarse _ => .unsupported
    | sharded s => ask s

def ask (form : Form) (c : Cache K V) (op : Op K V) : Except Fault (Answer V × Cache K V) :=
  if form.offers op then c.step op else .ok (.unsupported, c)

end CacheAside.Cache
