import CacheAside.Pool.Basic
import CacheAside.Error.Text

namespace CacheAside.Pool.Scenario

variable {C : Type}

/-- What one caller may do with a pool and the connections it holds, which are numbered in the order
    in which it got them. An operation is faulty when what it was to be given cannot be made. -/
inductive Op (C : Type) where
  | acquire
  | acquireWithin (timeout : Span)
  | release (guard : Nat)
  | detach (guard : Nat)
  | set (guard : Nat) (connection : C)
  | unwind (guard : Nat)
  | releaseToWaiter (guard : Nat) (timeout : Option Span)
  | detachForWaiter (guard : Nat) (timeout : Option Span)
  | describeGuard (guard : Nat)
  | describe
  | stats
  | maxSize
  | faulty (fault : Fault)
  deriving DecidableEq

inductive Reply (C : Type) where
  | acquired (guard : Nat) (connection : C)
  | refused (error : AcquireError)
  | fault (fault : Fault)
  | wouldBlock (answer : Bool)
  | connection (connection : C)
  | unwound
  | text (text : String)
  | stats (stats : PoolStats)
  | maxSize (size : Nat)
  | done

inductive Act (C : Type) where
  | plain (op : Op C)
  | overlapped (op : Op C) (during : List (Act C))

/-- What came of an operation and how the pool stood after it. `during` holds the steps of the
    operations that overlapped it, where any were planned and a connection was opened. -/
inductive Step (C : Type) where
  | mk (reply : Reply C) (idle total : Nat) (during : Option (Option (List (Step C))))

/-- The surroundings of the pool: the outcome of each call of the factory by its number, the calls
    so far, the held connections, and the steps that overlapped the operation in progress. -/
structure Bench (C : Type) where
  now : Instant
  outcome : Nat → Outcome ConnectionError C
  calls : Nat := 0
  guards : Array (Option C) := #[]
  overlap : Option (List (Step C)) := none

abbrev State (C : Type) := Pool C × Bench C

abbrev Interlude (C : Type) := State C → List (Step C) × State C

def connect (interlude : Option (Interlude C)) (s : State C) :
    Outcome ConnectionError C × State C :=
  let (pool, bench) := s
  let s := (pool, { bench with calls := bench.calls + 1 })
  let (pool', bench') := match interlude with
    | none => s
    | some run =>
      let (steps, (pool', bench')) := run s
      (pool', { bench' with overlap := some steps })
  (bench.outcome bench.calls, (pool', bench'))

def keep (acquired : Outcome AcquireError C) (s : State C) : Reply C × State C :=
  match acquired with
  | .ok connection =>
    (.acquired s.2.guards.size connection,
      (s.1, { s.2 with guards := s.2.guards.push (some connection) }))
  | .error error => (.refused error, s)
  | .fault fault => (.fault fault, s)
  | .blocked => (.wouldBlock true, s)

def acquire (interlude : Option (Interlude C)) (timeout : Option Span) (s : State C) :
    Reply C × State C :=
  match timeout with
  | none =>
    let (acquired, s) := Pool.acquire (connect interlude) s
    keep (acquired.mapError .connection) s
  | some timeout =>
    let (acquired, s) := Pool.acquireWithin (connect interlude) s.2.now timeout s
    keep acquired s

def withGuard (guard : Nat) (s : State C) (operation : C → Reply C × State C) : Reply C × State C :=
  match s.2.guards[guard]?.join with
  | none => (.done, s)
  | some connection => operation connection

def put (guard : Nat) (connection : Option C) (bench : Bench C) : Bench C :=
  { bench with guards := bench.guards.setIfInBounds guard connection }

def release (guard : Nat) (reply : C → Reply C) (s : State C) : Reply C × State C :=
  withGuard guard s fun connection =>
    (reply connection, (s.1.release connection, put guard none s.2))

def detach (guard : Nat) (s : State C) : Reply C × State C :=
  withGuard guard s fun connection =>
    match s.1.forget with
    | .ok pool => (.connection connection, (pool, put guard none s.2))
    | .error fault => (.fault fault, (s.1, put guard none s.2))

variable [ToString C]

/-- Carries out one operation. A waiter is there only when the pool is exhausted; it gets its turn
    as soon as the connection was given up. -/
def perform (interlude : Option (Interlude C)) (op : Op C) (s : State C) : Reply C × State C :=
  match op with
  | .acquire => acquire interlude none s
  | .acquireWithin timeout => acquire interlude (some timeout) s
  | .release guard => release guard (fun _ => .done) s
  | .unwind guard => release guard (fun _ => .unwound) s
  | .detach guard => detach guard s
  | .set guard connection =>
    withGuard guard s fun old => (.connection old, (s.1, put guard (some connection) s.2))
  | .releaseToWaiter guard timeout =>
    if s.1.exhausted then
      acquire interlude timeout (release guard (fun _ => .done) s).2
    else
      (.wouldBlock false, s)
  | .detachForWaiter guard timeout =>
    if s.1.exhausted then
      acquire interlude timeout (detach guard s).2
    else
      (.wouldBlock false, s)
  | .describeGuard guard =>
    withGuard guard s fun connection =>
      let shown := Text.optional (some (toString connection))
      (.text (Text.tagged "PooledConnection" shown), s)
  | .describe => (.text s.1.describe, s)
  | .stats => (.stats s.1.stats, s)
  | .maxSize => (.maxSize s.1.maxSize, s)
  | .faulty fault => (.fault fault, s)

mutual

def Act.run : Act C → State C → Step C × State C
  | .plain op, s =>
    let (reply, s) := perform none op s
    (.mk reply s.1.idle.length s.1.total none, s)
  | .overlapped op during, (pool, bench) =>
    let s := (pool, { bench with overlap := none })
    let (reply, (pool, bench)) := perform (some (runAll during)) op s
    (.mk reply pool.idle.length pool.total (some bench.overlap), (pool, bench))

def runAll : List (Act C) → State C → List (Step C) × State C
  | [], s => ([], s)
  | act :: acts, s =>
    let (step, s) := act.run s
    let (steps, s) := runAll acts s
    (step :: steps, s)

end

def closeAll (s : State C) : Pool C :=
  (s.2.guards.toList.filterMap id).foldl Pool.release s.1

structure Report (C : Type) where
  steps : List (Step C)
  closing : PoolStats
  calls : Nat

def run (maxSize : Nat) (bench : Bench C) (acts : List (Act C)) :
    Except ConfigError (Report C) := do
  let pool ← Pool.create maxSize
  let (steps, s) := runAll acts (pool, bench)
  return ⟨steps, (closeAll s).stats, s.2.calls⟩

end CacheAside.Pool.Scenario
