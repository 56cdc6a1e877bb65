import Std.Data.HashMap
import CacheAside.Metrics.CacheMetrics
import CacheAside.Recency.Basic
import CacheAside.Text.Summary

namespace CacheAside

namespace Shard

structure Entry (V : Type) where
  value : V
  slot : Slot
  deriving DecidableEq, Repr

end Shard

/-- A cache of bounded size that gives up the least recently used entry first: a map from keys to
    entries and the order in which the keys were last used. -/
structure Shard (K V : Type) [BEq K] [Hashable K] where
  map : Std.HashMap K (Shard.Entry V)
  order : Recency K
  capacity : Nat
  events : CacheEvents

namespace Shard

variable {K V : Type} [BEq K] [Hashable K]

/-- An empty shard. One of capacity zero never takes anything in. Room for the entries is not set
    aside beforehand: memory counts as unlimited, so no capacity is too large to allocate. -/
def create (capacity : Nat) : Shard K V := ⟨∅, .empty, capacity, {}⟩

def len (s : Shard K V) : Nat := s.map.size

def isEmpty (s : Shard K V) : Bool := s.map.isEmpty

def contains (s : Shard K V) (key : K) : Bool := s.map.contains key

def peek (s : Shard K V) (key : K) : Option V := s.map[key]?.map Entry.value

def keys (s : Shard K V) : List K := s.order.keys

def toList (s : Shard K V) : List (K × V) :=
  s.keys.filterMap fun key => (s.peek key).map fun value => (key, value)

def makeRoom (s : Shard K V) : Except Fault (Shard K V) :=
  if s.map.size < s.capacity then
    return s
  else do
    let (evicted, order) ← s.order.popBack
    match evicted with
    | none => return { s with order }
    | some key =>
      return { s with map := s.map.erase key, order, events := ← s.events.record .eviction }

/-- Gives a key a value and makes it the most recently used one. Returns the value it had; a key
    that had none displaces the least recently used one of a full shard. -/
def insert (s : Shard K V) (key : K) (value : V) : Except Fault (Option V × Shard K V) :=
  match s.map[key]? with
  | some entry => do
    let events ← s.events.record .insertUpdate
    let map := s.map.insert key { entry with value }
    return (some entry.value, { s with map, order := (s.order.moveToFront entry.slot).2, events })
  | none =>
    if s.capacity = 0 then
      return (none, s)
    else do
      let s ← s.makeRoom
      let events ← s.events.record .insertNew
      let (slot, order) ← s.order.pushFront key
      return (none, { s with map := s.map.insert key ⟨value, slot⟩, order, events })

def get (s : Shard K V) (key : K) : Except Fault (Option V × Shard K V) :=
  match s.map[key]? with
  | none => do return (none, { s with events := ← s.events.record .getMiss })
  | some entry => do
    let events ← s.events.record .getHit
    return (some entry.value, { s with order := (s.order.moveToFront entry.slot).2, events })

def remove (s : Shard K V) (key : K) : Except Fault (Option V × Shard K V) :=
  match s.map[key]? with
  | none => return (none, s)
  | some entry => do
    let (_, order) ← s.order.remove entry.slot
    let events ← s.events.record .removal
    return (some entry.value, { s with map := s.map.erase key, order, events })

def popOldest (s : Shard K V) : Except Fault (Option (K × V) × Shard K V) := do
  let (key, order) ← s.order.popBack
  match key with
  | none => return (none, { s with order })
  | some key =>
    let entry := s.map[key]?.map fun entry => (key, entry.value)
    return (entry, { s with map := s.map.erase key, order })

def peekOldest (s : Shard K V) : Option (K × V) :=
  s.order.oldest?.bind fun key => s.map[key]?.map fun entry => (key, entry.value)

def rank (s : Shard K V) (key : K) : Option Nat :=
  if s.map.contains key then s.keys.findIdx? (· == key) else none

def clear (s : Shard K V) : Except Fault (Shard K V) := do
  return { s with map := ∅, order := s.order.clear, events := ← s.events.record .clearing }

def metrics (s : Shard K V) : CacheMetrics := .ofEvents s.events s.map.size s.capacity

def consistent (s : Shard K V) : Bool :=
  s.order.wellLinked && s.map.size == s.order.length && s.map.size ≤ s.capacity &&
    s.map.toList.all fun (key, entry) => s.order.key? entry.slot == some key

def describe (s : Shard K V) : String :=
  Text.summary "LruShard" [("len", toString s.len), ("capacity", toString s.capacity)]

end Shard

end CacheAside
