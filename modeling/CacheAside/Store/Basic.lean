import Std.Data.HashMap
import CacheAside.Error.Basic

namespace CacheAside

structure StoreMetrics where
  hits : UInt64 := 0
  misses : UInt64 := 0
  inserts : UInt64 := 0
  updates : UInt64 := 0
  deletes : UInt64 := 0
  failures : UInt64 := 0
  deriving DecidableEq, Repr, Inhabited

inductive Upserted where
  | inserted
  | replaced
  deriving DecidableEq, Repr

/-- A store in memory: one table for all connections, and two switches that make it refuse new
    connections or fail on the open ones. -/
structure Store where
  table : Std.HashMap Int64 String := ∅
  metrics : StoreMetrics := {}
  opened : UInt64 := 0
  refusing : Bool := false
  failing : Bool := false

namespace Store

structure Connection where
  id : UInt64
  deriving DecidableEq, Repr

def ofRows (rows : List (Int64 × String)) : Store :=
  { table := rows.foldl (fun table (key, value) => table.insert key value) ∅ }

def len (s : Store) : Nat := s.table.size

def isEmpty (s : Store) : Bool := s.table.isEmpty

def peek (s : Store) (key : Int64) : Option String := s.table[key]?

def refuse (s : Store) (refusing : Bool) : Store := { s with refusing }

def fail (s : Store) (failing : Bool) : Store := { s with failing }

def connect (s : Store) : Except ConnectionError Connection × Store :=
  if s.refusing then
    (.error (.ofMessage "memory store is refusing connections"), s)
  else
    (.ok ⟨s.opened⟩, { s with opened := s.opened + 1 })

def serve {α : Type} (s : Store) (c : Connection) (operation : Store → α × Store) :
    Except StoreError α × Store :=
  if s.failing then
    (.error (.ofMessage ("connection " ++ toString c.id ++ " lost contact with memory store")),
      { s with metrics.failures := s.metrics.failures + 1 })
  else
    let (answer, s) := operation s
    (.ok answer, s)

def get (s : Store) (c : Connection) (key : Int64) : Except StoreError (Option String) × Store :=
  s.serve c fun s =>
    match s.table[key]? with
    | some value => (some value, { s with metrics.hits := s.metrics.hits + 1 })
    | none => (none, { s with metrics.misses := s.metrics.misses + 1 })

def upsert (s : Store) (c : Connection) (key : Int64) (value : String) :
    Except StoreError Upserted × Store :=
  s.serve c fun s =>
    let table := s.table.insert key value
    if s.table.contains key then
      (.replaced, { s with table, metrics.updates := s.metrics.updates + 1 })
    else
      (.inserted, { s with table, metrics.inserts := s.metrics.inserts + 1 })

/-- Tells whether there was a row; a deletion counts whether or not there was one. -/
def delete (s : Store) (c : Connection) (key : Int64) : Except StoreError Bool × Store :=
  s.serve c fun s =>
    (s.table.contains key,
      { s with table := s.table.erase key, metrics.deletes := s.metrics.deletes + 1 })

end Store

end CacheAside
