import CacheAside.Arena.Basic

namespace CacheAside

namespace Recency

/-- A key and its neighbours: `newer` towards the front, `older` towards the back. -/
structure Node (K : Type) where
  key : K
  newer : Option Slot
  older : Option Slot
  deriving DecidableEq, Repr

end Recency

/-- Keys in the order of their last use, linked through the cells of an arena: `front` is the most
    recently used one, `back` the least. -/
structure Recency (K : Type) where
  nodes : Arena (Recency.Node K)
  front : Option Slot
  back : Option Slot
  deriving DecidableEq, Repr

namespace Recency

variable {K : Type}

def empty : Recency K := ⟨.empty, none, none⟩

def length (l : Recency K) : Nat := l.nodes.size

def isEmpty (l : Recency K) : Bool := l.nodes.isEmpty

def key? (l : Recency K) (slot : Slot) : Option K := (l.nodes.get? slot).map Node.key

def newest? (l : Recency K) : Option K := l.front.bind l.key?

def oldest? (l : Recency K) : Option K := l.back.bind l.key?

def setNewer (nodes : Arena (Node K)) (place newer : Option Slot) : Arena (Node K) :=
  match place with
  | none => nodes
  | some slot => nodes.modify slot fun node => { node with newer }

def setOlder (nodes : Arena (Node K)) (place older : Option Slot) : Arena (Node K) :=
  match place with
  | none => nodes
  | some slot => nodes.modify slot fun node => { node with older }

def lead (l : Recency K) (nodes : Arena (Node K)) (slot : Slot) : Recency K :=
  ⟨setNewer nodes l.front (some slot), some slot, if l.front.isNone then some slot else l.back⟩

def pushFront (l : Recency K) (key : K) : Except Fault (Slot × Recency K) := do
  let (slot, nodes) ← l.nodes.insert ⟨key, none, l.front⟩
  return (slot, l.lead nodes slot)

def detach (l : Recency K) (slot : Slot) : Option (Recency K) :=
  match l.nodes.get? slot with
  | none => none
  | some node =>
    let nodes := setNewer (setOlder l.nodes node.newer node.older) node.older node.newer
    some {
      nodes := nodes.modify slot fun self => { self with newer := none, older := none }
      front := if node.newer.isNone then node.older else l.front
      back := if node.older.isNone then node.newer else l.back }

def attachFront (l : Recency K) (slot : Slot) : Recency K :=
  if l.nodes.contains slot then
    l.lead (l.nodes.modify slot fun self => { self with newer := none, older := l.front }) slot
  else
    l

def remove (l : Recency K) (slot : Slot) : Except Fault (Option K × Recency K) :=
  match l.detach slot with
  | none => return (none, l)
  | some rest => do
    let (node, nodes) ← rest.nodes.remove slot
    return (node.map Node.key, { rest with nodes })

def popBack (l : Recency K) : Except Fault (Option K × Recency K) :=
  match l.back with
  | none => return (none, l)
  | some slot => l.remove slot

def moveToFront (l : Recency K) (slot : Slot) : Bool × Recency K :=
  if !l.nodes.contains slot then
    (false, l)
  else if l.front = some slot then
    (true, l)
  else
    match l.detach slot with
    | none => (false, l)
    | some rest => (true, rest.attachFront slot)

def clear (l : Recency K) : Recency K := ⟨l.nodes.clear, none, none⟩

/-- The nodes met from a place on, with their handles, `steps` of them at most. `Node.older` leads
    towards the back and `Node.newer` towards the front. -/
def walk (l : Recency K) (next : Node K → Option Slot) : Nat → Option Slot → List (Slot × Node K)
  | 0, _ => []
  | _, none => []
  | steps + 1, some slot =>
    match l.nodes.get? slot with
    | none => []
    | some node => (slot, node) :: l.walk next steps (next node)

/-- The keys from the most to the least recently used. A walk without cycles visits each cell once
    at most, so the number of cells bounds it. -/
def keys (l : Recency K) : List K :=
  (l.walk Node.older l.nodes.cells.size l.front).map fun (_, node) => node.key

/-- Follows the links from a place with the node before it, counting down; true when each node
    points back to its forerunner, the last is `back`, and the count comes out. -/
def linkedFrom (l : Recency K) : Nat → Option Slot → Option Slot → Bool
  | remaining, _, none => remaining == 0
  | 0, _, some _ => false
  | remaining + 1, newer, some slot =>
    match l.nodes.get? slot with
    | none => false
    | some node =>
      node.newer == newer && (node.older.isSome || l.back == some slot) &&
        l.linkedFrom remaining (some slot) node.older

def wellLinked (l : Recency K) : Bool :=
  if l.front.isNone || l.back.isNone then
    l.front.isNone && l.back.isNone && l.length == 0
  else
    l.linkedFrom l.length none l.front

end Recency

end CacheAside
