import CacheAside.Error.Text
import CacheAside.Store.Basic

namespace CacheAside

inductive Status where
  | ok
  | created
  | notFound
  | badRequest
  | internalError
  deriving DecidableEq, Repr

namespace Status

def all : List Status := [ok, created, notFound, badRequest, internalError]

def name : Status → String
  | ok => "Ok"
  | created => "Created"
  | notFound => "NotFound"
  | badRequest => "BadRequest"
  | internalError => "InternalError"

def httpCode : Status → Nat
  | ok => 200
  | created => 201
  | notFound => 404
  | badRequest => 400
  | internalError => 500

def isSuccess : Status → Bool
  | ok | created => true
  | _ => false

end Status

structure Response where
  status : Status
  body : String
  deriving DecidableEq, Repr

namespace Response

def ofError (e : ServiceError) : Response :=
  if e.isClientError then
    ⟨.badRequest, "Invalid key format. Key must be an integer."⟩
  else
    ⟨.internalError, "Internal server error: " ++ e.display⟩

def ofRead : Option String → Response
  | some value => ⟨.ok, value⟩
  | none => ⟨.notFound, "Key not found"⟩

def ofWrite : Upserted → Response
  | .inserted => ⟨.created, "Created"⟩
  | .replaced => ⟨.ok, "Updated"⟩

def ofDelete : Response := ⟨.ok, "Deleted"⟩

end Response

end CacheAside
