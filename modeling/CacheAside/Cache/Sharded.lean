import CacheAside.Cache.Distribution
import CacheAside.Error.Basic
import CacheAside.Router
import CacheAside.Shard.Basic

namespace CacheAside

structure Sharded (K V : Type) [BEq K] [Hashable K] where
  shards : Array (Shard K V)
  router : Router
  capacity : Nat

namespace Sharded

def defaultShards : Nat := 32

variable {K V : Type} [BEq K] [Hashable K]

/-- Spreads the capacity over the shards. Of two zeros the capacity's is reported. As for one shard
    alone, no capacity and no number of shards is too large to allocate. -/
def create (capacity shards : Nat) : Except ConfigError (Sharded K V) :=
  if capacity = 0 then
    .error .zeroCapacity
  else if shards = 0 then
    .error .zeroShards
  else
    .ok {
      shards := ((shares capacity shards).map Shard.create).toArray
      router := .make (min shards capacity) 0
      capacity }

def shardCount (c : Sharded K V) : Nat := c.shards.size

def shardCapacities (c : Sharded K V) : List Nat := c.shards.toList.map Shard.capacity

def len (c : Sharded K V) : Except Fault Nat :=
  (c.shards.toList.map Shard.len).foldlM Word.add 0

def metrics (c : Sharded K V) : Except Fault CacheMetrics :=
  CacheMetrics.total (c.shards.toList.map Shard.metrics)

def clear (c : Sharded K V) : Except Fault (Sharded K V) := do
  return { c with shards := ← c.shards.mapM Shard.clear }

def describe (c : Sharded K V) : String :=
  Text.summary "ShardedLruCache"
    [("shards", toString c.shardCount), ("capacity", toString c.capacity)]

variable [ByteStream K]

def shardIndex (c : Sharded K V) (key : K) : Nat := c.router.route key

def shardOf (c : Sharded K V) (key : K) : Except Fault (Shard K V) :=
  match c.shards[c.shardIndex key]? with
  | some shard => .ok shard
  | none => .error (.outOfBounds (c.shardIndex key) c.shards.size)

def withShard (c : Sharded K V) (key : K) (shard : Shard K V) : Sharded K V :=
  { c with shards := c.shards.setIfInBounds (c.shardIndex key) shard }

def put (c : Sharded K V) (key : K) (value : V) : Except Fault (Sharded K V) := do
  let (_, shard) ← (← c.shardOf key).insert key value
  return c.withShard key shard

def get (c : Sharded K V) (key : K) : Except Fault (Option V × Sharded K V) := do
  let (value, shard) ← (← c.shardOf key).get key
  return (value, c.withShard key shard)

def remove (c : Sharded K V) (key : K) : Except Fault (Bool × Sharded K V) := do
  let (value, shard) ← (← c.shardOf key).remove key
  return (value.isSome, c.withShard key shard)

def peek (c : Sharded K V) (key : K) : Except Fault (Option V) := do
  return (← c.shardOf key).peek key

def contains (c : Sharded K V) (key : K) : Except Fault Bool := do
  return (← c.shardOf key).contains key

def consistent (c : Sharded K V) : Bool :=
  (c.shards.toList.zipIdx.all fun (shard, index) =>
    shard.consistent && 0 < shard.capacity &&
      shard.keys.all fun key => c.shardIndex key == index) &&
    c.shardCapacities.foldr (· + ·) 0 == c.capacity

end Sharded

end CacheAside
