import CacheAside.Word

namespace CacheAside

inductive CacheEvent where
  | getHit
  | getMiss
  | insertNew
  | insertUpdate
  | eviction
  | removal
  | clearing
  deriving DecidableEq, Repr

structure CacheEvents where
  getHits : Nat := 0
  getMisses : Nat := 0
  inserts : Nat := 0
  updates : Nat := 0
  evictions : Nat := 0
  removes : Nat := 0
  clears : Nat := 0
  deriving DecidableEq, Repr, Inhabited

namespace CacheEvents

def count (c : CacheEvents) : CacheEvent → Nat
  | .getHit => c.getHits
  | .getMiss => c.getMisses
  | .insertNew => c.inserts
  | .insertUpdate => c.updates
  | .eviction => c.evictions
  | .removal => c.removes
  | .clearing => c.clears

def record (c : CacheEvents) : CacheEvent → Except Fault CacheEvents
  | .getHit => do return { c with getHits := ← Word.add c.getHits 1 }
  | .getMiss => do return { c with getMisses := ← Word.add c.getMisses 1 }
  | .insertNew => do return { c with inserts := ← Word.add c.inserts 1 }
  | .insertUpdate => do return { c with updates := ← Word.add c.updates 1 }
  | .eviction => do return { c with evictions := ← Word.add c.evictions 1 }
  | .removal => do return { c with removes := ← Word.add c.removes 1 }
  | .clearing => do return { c with clears := ← Word.add c.clears 1 }

def recordAll (c : CacheEvents) (events : List CacheEvent) : Except Fault CacheEvents :=
  events.foldlM record c

end CacheEvents

end CacheAside
