import CacheAside.Arena.Basic

namespace CacheAside.Arena

inductive Op (α : Type) where
  | insert (value : α)
  | remove (slot : Slot)
  | get (slot : Slot)
  | set (slot : Slot) (value : α)
  | contains (slot : Slot)
  | clear
  deriving DecidableEq, Repr

inductive Answer (α : Type) where
  | issued (slot : Slot)
  | value (value : Option α)
  | flag (flag : Bool)
  | done
  deriving DecidableEq, Repr

def step {α : Type} (a : Arena α) : Op α → Except Fault (Answer α × Arena α)
  | .insert value => do let (slot, a) ← a.insert value; return (.issued slot, a)
  | .remove slot => do let (value, a) ← a.remove slot; return (.value value, a)
  | .get slot => return (.value (a.get? slot), a)
  | .set slot value => let (old, a) := a.replace slot value; return (.value old, a)
  | .contains slot => return (.flag (a.contains slot), a)
  | .clear => return (.done, a.clear)

end CacheAside.Arena
