import CacheAside.Key
import CacheAside.Service.Basic
import CacheAside.Service.Response

namespace CacheAside

inductive Request where
  | get (rawKey : String)
  | put (rawKey : String) (body : Option String)
  | delete (rawKey : String)
  | stats
  deriving DecidableEq, Repr

namespace Service

variable {C W : Type} (backend : Backend C (State C W)) (now : Instant)

def respond {α : Type} (rawKey : String) (toResponse : α → Response)
    (operation : Int64 → State C W → Outcome ServiceError α × State C W) (s : State C W) :
    Outcome Empty Response × State C W :=
  match Key.parse rawKey with
  | .error e => (.ok (.ofError e), s)
  | .ok key =>
    let (outcome, s) := operation key s
    ((outcome.map toResponse).recover .ofError, s)

def handleGet (rawKey : String) (s : State C W) : Outcome Empty Response × State C W :=
  respond rawKey .ofRead (read backend now) s

/-- A missing body stores the empty text. -/
def handlePut (rawKey : String) (body : Option String) (s : State C W) :
    Outcome Empty Response × State C W :=
  respond rawKey .ofWrite (fun key => write backend now key (body.getD "")) s

def handleDelete (rawKey : String) (s : State C W) : Outcome Empty Response × State C W :=
  respond rawKey (fun _ => .ofDelete) (delete backend now) s

def handleStats (s : Service C) : Response :=
  ⟨.ok, "totalGets:" ++ toString s.counters.totalGets ++ "\ncacheHits:" ++
    toString s.counters.cacheHits ++ "\n"⟩

def handle (request : Request) (s : State C W) : Outcome Empty Response × State C W :=
  match request with
  | .get rawKey => handleGet backend now rawKey s
  | .put rawKey body => handlePut backend now rawKey body s
  | .delete rawKey => handleDelete backend now rawKey s
  | .stats => (.ok s.1.handleStats, s)

end Service

end CacheAside
