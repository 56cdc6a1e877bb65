import CacheAside.Proofs.Service.Caching
import CacheAside.Proofs.Service.Table

namespace CacheAside.Service

/-- Where a client is in its operation: between operations, after the cache missed a key, with a
    value from the store that is not cached yet, or after a change of the store that the cache has
    not been told of. -/
inductive Stage where
  | idle
  | missed (key : Int64)
  | fetched (key : Int64) (value : String)
  | changed (key : Int64) (event : ServiceEvent)
  deriving DecidableEq

inductive Action where
  | hit (value : String)
  | missed
  | absent
  | fetched (value : String)
  | filled (value : String)
  | upserted (value : String)
  | deleted
  | invalidated
  | failed
  deriving DecidableEq

structure Event where
  client : Nat
  key : Int64
  action : Action
  deriving DecidableEq

structure Racing (C W : Type) where
  service : Service C
  world : W
  stage : Nat → Stage

def Action.found : Action → Option (Option String)
  | .hit value | .filled value => some (some value)
  | .absent => some none
  | _ => none

def Action.changes : Action → Bool
  | .upserted _ | .deleted => true
  | _ => false

def Event.leaves (e : Event) (key : Int64) (before : Option String) : Option String :=
  match e.action with
  | .upserted value => if e.key = key then some value else before
  | .deleted => if e.key = key then none else before
  | _ => before

/-- What the last change of a key left in the store, newest events first. -/
def left (key : Int64) (initial : Option String) (history : List Event) : Option String :=
  history.foldr (fun e before => e.leaves key before) initial

def Event.Changes (e : Event) (key : Int64) : Prop := e.key = key ∧ e.action.changes = true

/-- A key was changed in the store between the moment when a read got its value there and the moment
    when the same read cached that value. -/
def Raced (key : Int64) (history : List Event) : Prop :=
  ∃ after client value between before,
    history = after ++ ⟨client, key, .filled value⟩ :: between ++
      ⟨client, key, .fetched value⟩ :: before ∧
    (∃ e ∈ between, e.Changes key) ∧ ∀ e ∈ between, e.client ≠ client

variable {C W : Type}

def Racing.move (s : Racing C W) (client : Nat) (stage : Stage) : Racing C W :=
  { s with stage := Function.update s.stage client stage }

@[simp] theorem Racing.move_stage_self (s : Racing C W) (client : Nat) (stage : Stage) :
    (s.move client stage).stage client = stage := by simp [Racing.move]

theorem Racing.move_stage_of_ne {client other : Nat} (ne : other ≠ client) (s : Racing C W)
    (stage : Stage) : (s.move client stage).stage other = s.stage other := by
  simp [Racing.move, ne]

/-- One atomic step of one client. Reads look a key up, ask the store where the cache missed, and
    cache what they got; writes and deletions change the store and drop the cached copy. -/
inductive Step (b : Backend C W) (s : Racing C W) : Event → Racing C W → Prop
  | hit {client : Nat} {key : Int64} {value : String} {service : Service C}
    (idle : s.stage client = .idle) (looked : s.service.lookup key = (.ok (some value), service)) :
    Step b s ⟨client, key, .hit value⟩ ({ s with service }.move client .idle)
  | missed {client : Nat} {key : Int64} {service : Service C}
    (idle : s.stage client = .idle) (looked : s.service.lookup key = (.ok none, service)) :
    Step b s ⟨client, key, .missed⟩ ({ s with service }.move client (.missed key))
  | absent {client : Nat} {key : Int64} {connection : C} {world : W}
    (waiting : s.stage client = .missed key)
    (called : b.get connection key s.world = (.ok none, world)) :
    Step b s ⟨client, key, .absent⟩ ({ s with world }.move client .idle)
  | fetched {client : Nat} {key : Int64} {value : String} {connection : C} {world : W}
    (waiting : s.stage client = .missed key)
    (called : b.get connection key s.world = (.ok (some value), world)) :
    Step b s ⟨client, key, .fetched value⟩ ({ s with world }.move client (.fetched key value))
  | filled {client : Nat} {key : Int64} {value : String} {service : Service C}
    (holding : s.stage client = .fetched key value)
    (cached : s.service.fill key value = .ok service) :
    Step b s ⟨client, key, .filled value⟩ ({ s with service }.move client .idle)
  | upserted {client : Nat} {key : Int64} {value : String} {connection : C} {answer : Upserted}
    {world : W} (idle : s.stage client = .idle)
    (called : b.upsert connection key value s.world = (.ok answer, world)) :
    Step b s ⟨client, key, .upserted value⟩ ({ s with world }.move client (.changed key .write))
  | deleted {client : Nat} {key : Int64} {connection : C} {existed : Bool} {world : W}
    (idle : s.stage client = .idle)
    (called : b.delete connection key s.world = (.ok existed, world)) :
    Step b s ⟨client, key, .deleted⟩ ({ s with world }.move client (.changed key .delete))
  | invalidated {client : Nat} {key : Int64} {event : ServiceEvent} {service : Service C}
    (changed : s.stage client = .changed key event)
    (dropped : s.service.invalidate key event = .ok service) :
    Step b s ⟨client, key, .invalidated⟩ ({ s with service }.move client .idle)
  | refused {client : Nat} {key : Int64} (waiting : s.stage client = .missed key) :
    Step b s ⟨client, key, .failed⟩ (s.move client .idle)
  | getFailed {client : Nat} {key : Int64} {connection : C}
    {outcome : Outcome StoreError (Option String)} {world : W}
    (waiting : s.stage client = .missed key)
    (called : b.get connection key s.world = (outcome, world)) (failed : ∀ a, outcome ≠ .ok a) :
    Step b s ⟨client, key, .failed⟩ ({ s with world }.move client .idle)
  | upsertFailed {client : Nat} {key : Int64} {value : String} {connection : C}
    {outcome : Outcome StoreError Upserted} {world : W} (idle : s.stage client = .idle)
    (called : b.upsert connection key value s.world = (outcome, world))
    (failed : ∀ a, outcome ≠ .ok a) :
    Step b s ⟨client, key, .failed⟩ ({ s with world }.move client .idle)
  | deleteFailed {client : Nat} {key : Int64} {connection : C} {outcome : Outcome StoreError Bool}
    {world : W} (idle : s.stage client = .idle)
    (called : b.delete connection key s.world = (outcome, world))
    (failed : ∀ a, outcome ≠ .ok a) :
    Step b s ⟨client, key, .failed⟩ ({ s with world }.move client .idle)

/-- Steps of any clients in any order, with their events, the newest one first. Whatever else goes
    on leaves the cache and the rows of the store alone: connections are opened, lent and given
    back, things are counted, a store starts or stops to fail. -/
inductive Runs (b : Backend C W) (table : W → Table) (start : Racing C W) :
    List Event → Racing C W → Prop
  | start : Runs b table start [] start
  | step {s s' : Racing C W} {history : List Event} {e : Event}
    (runs : Runs b table start history s) (step : Step b s e s') :
    Runs b table start (e :: history) s'
  | elsewhere {s : Racing C W} {history : List Event} {service : Service C} {world : W}
    (runs : Runs b table start history s) (cache : service.cache = s.service.cache)
    (rows : table world = table s.world) :
    Runs b table start history { s with service, world }

end CacheAside.Service
