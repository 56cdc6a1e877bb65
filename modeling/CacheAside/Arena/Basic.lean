import CacheAside.Word

namespace CacheAside

/-- A handle to a cell of an arena. It stays the same handle after the cell was freed and used
    again. -/
structure Slot where
  index : Nat
  deriving DecidableEq, Repr

/-- Cells that keep their place while others come and go. Freed cells are used again, the last
    freed first, before a new one is made. -/
structure Arena (α : Type) where
  cells : Array (Option α)
  free : List Nat
  size : Nat
  deriving DecidableEq, Repr

namespace Arena

variable {α : Type}

def empty : Arena α := ⟨#[], [], 0⟩

def isEmpty (a : Arena α) : Bool := a.size == 0

def get? (a : Arena α) (slot : Slot) : Option α := a.cells[slot.index]?.join

def contains (a : Arena α) (slot : Slot) : Bool := (a.get? slot).isSome

def write (a : Arena α) (index : Nat) (cell : Option α) : Except Fault (Array (Option α)) :=
  if h : index < a.cells.size then
    .ok (a.cells.set index cell h)
  else
    .error (.outOfBounds index a.cells.size)

def insert (a : Arena α) (value : α) : Except Fault (Slot × Arena α) :=
  match a.free with
  | index :: free => do
    let cells ← a.write index (some value)
    let size ← Word.add a.size 1
    return (⟨index⟩, ⟨cells, free, size⟩)
  | [] => do
    let size ← Word.add a.size 1
    return (⟨a.cells.size⟩, ⟨a.cells.push (some value), [], size⟩)

def remove (a : Arena α) (slot : Slot) : Except Fault (Option α × Arena α) :=
  match a.get? slot with
  | none => return (none, a)
  | some value => do
    let cells ← a.write slot.index none
    let size ← Word.sub a.size 1
    return (some value, ⟨cells, slot.index :: a.free, size⟩)

def modify (a : Arena α) (slot : Slot) (f : α → α) : Arena α :=
  { a with cells := a.cells.modify slot.index (Option.map f) }

def replace (a : Arena α) (slot : Slot) (value : α) : Option α × Arena α :=
  (a.get? slot, a.modify slot fun _ => value)

def clear (_ : Arena α) : Arena α := empty

end Arena

end CacheAside
