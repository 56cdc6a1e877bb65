import CacheAside.Recency.Basic

namespace CacheAside.Recency

inductive Op (K : Type) where
  | push (key : K)
  | pop
  | remove (slot : Slot)
  | touch (slot : Slot)
  | key (slot : Slot)
  | clear
  deriving DecidableEq, Repr

inductive Answer (K : Type) where
  | issued (slot : Slot)
  | key (key : Option K)
  | flag (flag : Bool)
  | done
  deriving DecidableEq, Repr

def step {K : Type} (l : Recency K) : Op K → Except Fault (Answer K × Recency K)
  | .push key => do let (slot, l) ← l.pushFront key; return (.issued slot, l)
  | .pop => do let (key, l) ← l.popBack; return (.key key, l)
  | .remove slot => do let (key, l) ← l.remove slot; return (.key key, l)
  | .touch slot => let (found, l) := l.moveToFront slot; return (.flag found, l)
  | .key slot => return (.key (l.key? slot), l)
  | .clear => return (.done, l.clear)

end CacheAside.Recency
