import CacheAside.Cache.Coarse
import CacheAside.Cache.Sharded

namespace CacheAside

inductive CachePolicy where
  | coarse
  | sharded (shards : Nat)
  deriving DecidableEq, Repr

inductive Cache (K V : Type) [BEq K] [Hashable K] where
  | coarse (cache : Coarse K V)
  | sharded (cache : Sharded K V)

namespace Cache

variable {K V : Type} [BEq K] [Hashable K]

def defaultPolicy : CachePolicy := .sharded Sharded.defaultShards

def build (capacity : Nat) : CachePolicy → Except ConfigError (Cache K V)
  | .coarse => do return .coarse (← Coarse.create capacity)
  | .sharded shards => do return .sharded (← Sharded.create capacity shards)

/-- The policy, with the number of shards there really are. -/
def policy : Cache K V → CachePolicy
  | coarse _ => .coarse
  | sharded c => .sharded c.shardCount

def len : Cache K V → Except Fault Nat
  | coarse c => return c.len
  | sharded c => c.len

def capacity : Cache K V → Nat
  | coarse c => c.capacity
  | sharded c => c.capacity

def clear : Cache K V → Except Fault (Cache K V)
  | coarse c => do return coarse (← c.clear)
  | sharded c => do return sharded (← c.clear)

def metrics : Cache K V → Except Fault CacheMetrics
  | coarse c => return c.metrics
  | sharded c => c.metrics

def describe : Cache K V → String
  | coarse c => c.describe
  | sharded c => c.describe

variable [ByteStream K]

def put (c : Cache K V) (key : K) (value : V) : Except Fault (Cache K V) :=
  match c with
  | coarse c => do return coarse (← c.put key value)
  | sharded c => do return sharded (← c.put key value)

def get (c : Cache K V) (key : K) : Except Fault (Option V × Cache K V) :=
  match c with
  | coarse c => do let (value, c) ← c.get key; return (value, coarse c)
  | sharded c => do let (value, c) ← c.get key; return (value, sharded c)

def remove (c : Cache K V) (key : K) : Except Fault (Bool × Cache K V) :=
  match c with
  | coarse c => do let (found, c) ← c.remove key; return (found, coarse c)
  | sharded c => do let (found, c) ← c.remove key; return (found, sharded c)

def peek (c : Cache K V) (key : K) : Except Fault (Option V) :=
  match c with
  | coarse c => return c.peek key
  | sharded c => c.peek key

def contains (c : Cache K V) (key : K) : Except Fault Bool :=
  match c with
  | coarse c => return c.contains key
  | sharded c => c.contains key

end Cache

end CacheAside
