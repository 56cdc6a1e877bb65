import CacheAside.Cache.Op
import CacheAside.Service.Request

namespace CacheAside.Service.Scenario

/-- What may be done with a service, its cache and its store, and with connections that are held
    outside of any request, which are numbered in the order in which they were taken. An operation
    is faulty when what it was to be given cannot be made. -/
inductive Op where
  | handle (request : Request)
  | read (key : Int64)
  | write (key : Int64) (value : String)
  | delete (key : Int64)
  | metrics
  | describe
  | cache (op : Cache.Op Int64 String)
  | storeMetrics
  | storePeek (key : Int64)
  | refuse (refusing : Bool)
  | fail (failing : Bool)
  | failNext (error : StoreError)
  | failConnect (error : ConnectionError)
  | raiseNext (message : String)
  | hold
  | release (guard : Nat)
  | detach (guard : Nat)
  | heldGet (guard : Nat) (key : Int64)
  | heldUpsert (guard : Nat) (key : Int64) (value : String)
  | heldDelete (guard : Nat) (key : Int64)
  | faulty (fault : Fault)

inductive Reply where
  | response (response : Response)
  | found (value : Option String)
  | upserted (outcome : Upserted)
  | deleted
  | existed (existed : Bool)
  | serviceError (error : ServiceError)
  | storeError (error : StoreError)
  | fault (fault : Fault)
  | wouldBlock
  | metrics (counters : ServiceCounters)
  | storeMetrics (metrics : StoreMetrics)
  | row (value : Option String)
  | text (text : String)
  | cache (answer : Cache.Answer String)
  | held (guard : Nat)
  | done

/-- An operation, with those that others carry out while its call is in the store: before the store
    does its part where `beforehand` says so, else after it. -/
inductive Act where
  | plain (op : Op)
  | overlapped (op : Op) (beforehand : Bool) (during : List Act)

structure Gauges where
  cacheLen : Except Fault Nat
  poolIdle : Nat
  poolTotal : Nat
  opened : UInt64
  rows : Nat

/-- What came of an operation and how everything stood after it. `during` holds the steps of the
    operations that overlapped it, where any were planned and the store was called. -/
inductive Step where
  | mk (reply : Reply) (gauges : Gauges) (during : Option (Option (List Step)))

/-- The surroundings of a service: the store, faults that each strike one call, the held
    connections, and the steps that overlapped the operation in progress. -/
structure Rig where
  now : Instant
  form : Cache.Form
  store : Store
  failNext : Option StoreError := none
  failConnect : Option ConnectionError := none
  raiseNext : Option String := none
  held : Array (Option Store.Connection) := #[]
  overlap : Option (List Step) := none

abbrev State := Service.State Store.Connection Rig

structure Interlude where
  beforehand : Bool
  run : State → List Step × State

def yield (interlude : Option Interlude) (beforehand : Bool) (s : State) : State :=
  match interlude with
  | none => s
  | some interlude =>
    if interlude.beforehand = beforehand then
      let (steps, (service, rig)) := interlude.run s
      (service, { rig with overlap := some steps })
    else
      s

def connect (s : State) : Outcome ConnectionError Store.Connection × State :=
  let (service, rig) := s
  match rig.failConnect with
  | some error => (.error error, (service, { rig with failConnect := none }))
  | none =>
    let (opened, store) := Store.backend.connect rig.store
    (opened, (service, { rig with store }))

def call {α : Type} (interlude : Option Interlude)
    (operation : Store → Outcome StoreError α × Store) (s : State) : Outcome StoreError α × State :=
  let (service, rig) := yield interlude true s
  match rig.raiseNext, rig.failNext with
  | some message, _ =>
    (.fault (.raised message), (service, { rig with raiseNext := none, failNext := none }))
  | none, some error => (.error error, (service, { rig with failNext := none }))
  | none, none =>
    let (answer, store) := operation rig.store
    (answer, yield interlude false (service, { rig with store }))

def backend (interlude : Option Interlude) : Backend Store.Connection State where
  connect := connect
  get connection key := call interlude (Store.backend.get connection key)
  upsert connection key value := call interlude (Store.backend.upsert connection key value)
  delete connection key := call interlude (Store.backend.delete connection key)

def answer {α : Type} (reply : α → Reply) (called : Outcome ServiceError α × State) :
    Reply × State :=
  match called with
  | (.ok value, s) => (reply value, s)
  | (.error error, s) => (.serviceError error, s)
  | (.fault fault, s) => (.fault fault, s)
  | (.blocked, s) => (.wouldBlock, s)

def handle (interlude : Option Interlude) (request : Request) (s : State) : Reply × State :=
  match Service.handle (backend interlude) s.2.now request s with
  | (.ok response, s) => (.response response, s)
  | (.fault fault, s) => (.fault fault, s)
  | (.blocked, s) => (.wouldBlock, s)

def hold (s : State) : Reply × State :=
  let acquire s :=
    let (acquired, s) := Pool.acquire (Service.openConnection (backend none)) s
    (acquired.mapError ServiceError.connection, s)
  match Service.onPool acquire s with
  | (.ok connection, (service, rig)) =>
    (.held rig.held.size, (service, { rig with held := rig.held.push (some connection) }))
  | (failed, s) => answer (fun _ => .done) (failed, s)

def withHeld (guard : Nat) (s : State) (operation : Store.Connection → Reply × State) :
    Reply × State :=
  match s.2.held[guard]?.join with
  | none => (.done, s)
  | some connection => operation connection

def setHeld (guard : Nat) (connection : Option Store.Connection) (rig : Rig) : Rig :=
  { rig with held := rig.held.setIfInBounds guard connection }

/-- Calls the store on a held connection, which is with the call while it lasts: its holder gets it
    back with an answer or an error, and a fault gives it back to the pool. -/
def callHeld {α : Type} (guard : Nat) (reply : α → Reply)
    (operation : Store.Connection → State → Outcome StoreError α × State) (s : State) :
    Reply × State :=
  withHeld guard s fun connection =>
    let (called, (service, rig)) := operation connection (s.1, setHeld guard none s.2)
    let returned := (service, setHeld guard (some connection) rig)
    match called with
    | .ok value => (reply value, returned)
    | .error error => (.storeError error, returned)
    | .fault fault => (.fault fault, (service.release connection, rig))
    | .blocked => (.wouldBlock, returned)

def perform (interlude : Option Interlude) (op : Op) (s : State) : Reply × State :=
  let (service, rig) := s
  match op with
  | .handle request => handle interlude request s
  | .read key => answer .found (Service.read (backend interlude) rig.now key s)
  | .write key value => answer .upserted (Service.write (backend interlude) rig.now key value s)
  | .delete key => answer (fun _ => .deleted) (Service.delete (backend interlude) rig.now key s)
  | .metrics => (.metrics service.counters, s)
  | .describe =>
    match service.describe with
    | .ok text => (.text text, s)
    | .error fault => (.fault fault, s)
  | .cache op =>
    match service.cache.ask rig.form op with
    | .ok (answer, cache) => (.cache answer, ({ service with cache }, rig))
    | .error fault => (.fault fault, s)
  | .storeMetrics => (.storeMetrics rig.store.metrics, s)
  | .storePeek key => (.row (rig.store.peek key), s)
  | .refuse refusing => (.done, (service, { rig with store := rig.store.refuse refusing }))
  | .fail failing => (.done, (service, { rig with store := rig.store.fail failing }))
  | .failNext error => (.done, (service, { rig with failNext := some error }))
  | .failConnect error => (.done, (service, { rig with failConnect := some error }))
  | .raiseNext message => (.done, (service, { rig with raiseNext := some message }))
  | .hold => hold s
  | .release guard => withHeld guard s fun connection =>
    (.done, (service.release connection, setHeld guard none rig))
  | .detach guard => withHeld guard s fun _ =>
    match service.pool.forget with
    | .ok pool => (.done, ({ service with pool }, setHeld guard none rig))
    | .error fault => (.fault fault, (service, setHeld guard none rig))
  | .heldGet guard key => s |> callHeld guard .found fun connection =>
    (backend interlude).get connection key
  | .heldUpsert guard key value => s |> callHeld guard .upserted fun connection =>
    (backend interlude).upsert connection key value
  | .heldDelete guard key => s |> callHeld guard .existed fun connection =>
    (backend interlude).delete connection key
  | .faulty fault => (.fault fault, s)

def gauges (s : State) : Gauges where
  cacheLen := s.1.cache.len
  poolIdle := s.1.pool.idle.length
  poolTotal := s.1.pool.total
  opened := s.2.store.opened
  rows := s.2.store.len

mutual

def Act.run : Act → State → Step × State
  | .plain op, s =>
    let (reply, s) := perform none op s
    (.mk reply (gauges s) none, s)
  | .overlapped op beforehand during, (service, rig) =>
    let s := (service, { rig with overlap := none })
    let (reply, s) := perform (some ⟨beforehand, runAll during⟩) op s
    (.mk reply (gauges s) (some s.2.overlap), s)

def runAll : List Act → State → List Step × State
  | [], s => ([], s)
  | act :: acts, s =>
    let (step, s) := act.run s
    let (steps, s) := runAll acts s
    (step :: steps, s)

end

end CacheAside.Service.Scenario
