import CacheAside.Error.Basic
import CacheAside.Outcome
import CacheAside.Text.Summary
import CacheAside.Word

namespace CacheAside

structure PoolStats where
  idle : Nat
  total : Nat
  maxSize : Nat
  deriving DecidableEq, Repr

def PoolStats.inUse (s : PoolStats) : Except Fault Nat := Word.sub s.total s.idle

inductive Checkout (C : Type) where
  | idle (connection : C)
  | opening
  deriving DecidableEq, Repr

/-- A bounded stock of connections. Those that nobody uses wait in a queue; `total` also counts
    those in use and those about to be opened, and never passes `maxSize`. -/
structure Pool (C : Type) where
  idle : List C
  total : Nat
  maxSize : Nat
  deriving DecidableEq, Repr

namespace Pool

variable {C : Type}

/-- An empty pool. As for a shard, no size is too large to allocate. -/
def create (maxSize : Nat) : Except ConfigError (Pool C) :=
  if maxSize = 0 then .error .zeroPoolSize else .ok ⟨[], 0, maxSize⟩

def stats (p : Pool C) : PoolStats := ⟨p.idle.length, p.total, p.maxSize⟩

def exhausted (p : Pool C) : Bool := p.idle.isEmpty && p.maxSize ≤ p.total

def checkout (p : Pool C) : Option (Checkout C × Pool C) :=
  match p.idle with
  | connection :: idle => some (.idle connection, { p with idle })
  | [] => if p.total < p.maxSize then some (.opening, { p with total := p.total + 1 }) else none

def release (p : Pool C) (connection : C) : Pool C := { p with idle := p.idle ++ [connection] }

def forget (p : Pool C) : Except Fault (Pool C) := do
  return { p with total := ← Word.sub p.total 1 }

/-- Gives the place back that was reserved for a connection, unless the connection was opened. A
    fault on the way there stands. -/
def settle {W : Type} (opened : Outcome ConnectionError C) (s : Pool C × W) :
    Outcome ConnectionError C × (Pool C × W) :=
  match opened with
  | .ok _ | .blocked => (opened, s)
  | .error _ | .fault _ =>
    match s.1.forget with
    | .ok p => (opened, (p, s.2))
    | .error fault => (.fault fault, s)

section Acquire

variable {W : Type} (connect : Pool C × W → Outcome ConnectionError C × (Pool C × W))

/-- Turns what was checked out into a connection. The pool is free for others while a new one is
    being opened, so `connect` sees it and may change it. -/
def complete (checkedOut : Checkout C) (s : Pool C × W) :
    Outcome ConnectionError C × (Pool C × W) :=
  match checkedOut with
  | .idle connection => (.ok connection, s)
  | .opening =>
    let (opened, s) := connect s
    settle opened s

def acquire (s : Pool C × W) : Outcome ConnectionError C × (Pool C × W) :=
  match s.1.checkout with
  | none => (.blocked, s)
  | some (checkedOut, p) => complete connect checkedOut (p, s.2)

/-- Gets a connection, and gives up when the pool is still exhausted after `timeout`. The deadline
    is reckoned before anything else. -/
def acquireWithin (now : Instant) (timeout : Span) (s : Pool C × W) :
    Outcome AcquireError C × (Pool C × W) :=
  match now.after timeout with
  | .error fault => (.fault fault, s)
  | .ok _ =>
    match s.1.checkout with
    | none => (.error (.timeout timeout), s)
    | some (checkedOut, p) =>
      let (opened, s) := complete connect checkedOut (p, s.2)
      (opened.mapError .connection, s)

end Acquire

def describe (p : Pool C) : String :=
  Text.summary "Pool"
    [("idle", toString p.idle.length), ("total", toString p.total),
      ("max_size", toString p.maxSize)]

end Pool

end CacheAside
