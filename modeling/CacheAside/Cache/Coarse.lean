import CacheAside.Error.Basic
import CacheAside.Shard.Basic

namespace CacheAside

structure Coarse (K V : Type) [BEq K] [Hashable K] where
  shard : Shard K V

namespace Coarse

variable {K V : Type} [BEq K] [Hashable K]

def create (capacity : Nat) : Except ConfigError (Coarse K V) :=
  if capacity = 0 then .error .zeroCapacity else .ok ⟨.create capacity⟩

def put (c : Coarse K V) (key : K) (value : V) : Except Fault (Coarse K V) := do
  return ⟨(← c.shard.insert key value).2⟩

def get (c : Coarse K V) (key : K) : Except Fault (Option V × Coarse K V) := do
  let (value, shard) ← c.shard.get key
  return (value, ⟨shard⟩)

def remove (c : Coarse K V) (key : K) : Except Fault (Bool × Coarse K V) := do
  let (value, shard) ← c.shard.remove key
  return (value.isSome, ⟨shard⟩)

def peek (c : Coarse K V) (key : K) : Option V := c.shard.peek key

def contains (c : Coarse K V) (key : K) : Bool := c.shard.contains key

def clear (c : Coarse K V) : Except Fault (Coarse K V) := do return ⟨← c.shard.clear⟩

def len (c : Coarse K V) : Nat := c.shard.len

def capacity (c : Coarse K V) : Nat := c.shard.capacity

def metrics (c : Coarse K V) : CacheMetrics := c.shard.metrics

def describe (c : Coarse K V) : String :=
  Text.summary "CoarseLruCache" [("len", toString c.len), ("capacity", toString c.capacity)]

end Coarse

end CacheAside
