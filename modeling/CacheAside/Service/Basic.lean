import CacheAside.Backend
import CacheAside.Cache.Basic
import CacheAside.Error.Text
import CacheAside.Metrics.ServiceCounters
import CacheAside.Pool.Basic

namespace CacheAside

/-- A cache in front of a pool of store connections. Reads fill the cache; writes and deletions
    change the store first and drop the cached copy after it. -/
structure Service (C : Type) where
  cache : Cache Int64 String
  pool : Pool C
  acquireTimeout : Option Span
  counters : ServiceCounters

namespace Service

variable {C W : Type}

def create (cache : Cache Int64 String) (pool : Pool C) (acquireTimeout : Option Span) :
    Service C :=
  ⟨cache, pool, acquireTimeout, {}⟩

abbrev State (C W : Type) := Service C × W

def record (s : Service C) (event : ServiceEvent) : Service C :=
  { s with counters := s.counters.record event }

def lookup (s : Service C) (key : Int64) : Outcome ServiceError (Option String) × Service C :=
  let s := s.record .get
  match s.cache.get key with
  | .error fault => (.fault fault, s)
  | .ok (none, cache) => (.ok none, { s with cache })
  | .ok (some value, cache) => (.ok (some value), { s with cache }.record .cacheHit)

def fill (s : Service C) (key : Int64) (value : String) : Except Fault (Service C) := do
  return { s with cache := ← s.cache.put key value }

def invalidate (s : Service C) (key : Int64) (event : ServiceEvent) : Except Fault (Service C) := do
  return { s with cache := (← s.cache.remove key).2 }.record event

def release (s : Service C) (connection : C) : Service C :=
  { s with pool := s.pool.release connection }

def onPool {α : Type}
    (action : Pool C × State C W → Outcome ServiceError α × (Pool C × State C W)) (s : State C W) :
    Outcome ServiceError α × State C W :=
  let (outcome, (pool, (service, world))) := action (s.1.pool, s)
  (outcome, ({ service with pool }, world))

variable (backend : Backend C (State C W)) (now : Instant)

def openConnection (s : Pool C × State C W) : Outcome ConnectionError C × (Pool C × State C W) :=
  let (opened, (service, world)) := backend.connect ({ s.2.1 with pool := s.1 }, s.2.2)
  (opened, (service.pool, (service, world)))

def acquire (s : State C W) : Outcome ServiceError C × State C W :=
  match s.1.acquireTimeout with
  | none => s |> onPool fun s =>
    let (acquired, s) := Pool.acquire (openConnection backend) s
    (acquired.mapError .connection, s)
  | some timeout => s |> onPool fun s =>
    let (acquired, s) := Pool.acquireWithin (openConnection backend) now timeout s
    (acquired.mapError .ofAcquire, s)

/-- Calls the store on a pooled connection, which is back in the pool when this returns, whether by
    an answer, an error or a fault. An error on the way is counted, once. -/
def withConnection {α : Type} (call : C → State C W → Outcome StoreError α × State C W)
    (s : State C W) : Outcome ServiceError α × State C W :=
  let (result, s) : Outcome ServiceError α × State C W :=
    match acquire backend now s with
    | (.ok connection, s) =>
      match call connection s with
      | (.blocked, s) => (.blocked, s)
      | (answer, (service, world)) =>
        (answer.mapError .store, (service.release connection, world))
    | (.error e, s) => (.error e, s)
    | (.fault fault, s) => (.fault fault, s)
    | (.blocked, s) => (.blocked, s)
  match result with
  | .error e => (.error e, (s.1.record .error, s.2))
  | result => (result, s)

/-- The value of a key, from the cache or else from the store, whose answer is then cached. That a
    key has no value is never cached. -/
def read (key : Int64) (s : State C W) : Outcome ServiceError (Option String) × State C W :=
  match s.1.lookup key with
  | (.ok none, service) =>
    let fetch connection (s : State C W) :=
      backend.get connection key (s.1.record .storeRead, s.2)
    match withConnection backend now fetch (service, s.2) with
    | (.ok (some value), (service, world)) =>
      match service.fill key value with
      | .ok service => (.ok (some value), (service, world))
      | .error fault => (.fault fault, (service, world))
    | (fetched, s) => (fetched, s)
  | (found, service) => (found, (service, s.2))

def thenInvalidate {α : Type} (key : Int64) (event : ServiceEvent)
    (changed : Outcome ServiceError α × State C W) : Outcome ServiceError α × State C W :=
  match changed with
  | (.ok answer, (service, world)) =>
    match service.invalidate key event with
    | .ok service => (.ok answer, (service, world))
    | .error fault => (.fault fault, (service, world))
  | (failed, s) => (failed, s)

def write (key : Int64) (value : String) (s : State C W) :
    Outcome ServiceError Upserted × State C W :=
  thenInvalidate key .write
    (withConnection backend now (fun connection s => backend.upsert connection key value s) s)

def delete (key : Int64) (s : State C W) : Outcome ServiceError Unit × State C W :=
  let (deleted, s) := thenInvalidate key .delete
    (withConnection backend now (fun connection s => backend.delete connection key s) s)
  (deleted.map fun _ => (), s)

def describe (s : Service C) : Except Fault String := do
  return Text.summary "KvService"
    [("cache_len", toString (← s.cache.len)), ("cache_capacity", toString s.cache.capacity),
      ("pool", s.pool.describe),
      ("acquire_timeout", Text.optional (s.acquireTimeout.map Span.text))]

end Service

end CacheAside
