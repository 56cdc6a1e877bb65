import CacheAside.Fault

namespace CacheAside

/-- How a call stands: it returned a value, it returned an error, a fault unwound it, or it waits
    for something that nobody has done yet. -/
inductive Outcome (ε α : Type) where
  | ok (value : α)
  | error (error : ε)
  | fault (fault : Fault)
  | blocked
  deriving DecidableEq, Repr

namespace Outcome

variable {ε ε' α β : Type}

def map (f : α → β) : Outcome ε α → Outcome ε β
  | ok value => ok (f value)
  | error e => error e
  | fault f => fault f
  | blocked => blocked

def mapError (f : ε → ε') : Outcome ε α → Outcome ε' α
  | ok value => ok value
  | error e => error (f e)
  | fault f => fault f
  | blocked => blocked

def recover (f : ε → α) : Outcome ε α → Outcome Empty α
  | ok value => ok value
  | error e => ok (f e)
  | fault f => fault f
  | blocked => blocked

def ofExcept : Except ε α → Outcome ε α
  | .ok value => ok value
  | .error e => error e

@[simp] theorem map_ok (f : α → β) (value : α) :
    (ok value : Outcome ε α).map f = ok (f value) := rfl

@[simp] theorem mapError_ok (f : ε → ε') (value : α) : (ok value).mapError f = ok value := rfl

@[simp] theorem mapError_error (f : ε → ε') (e : ε) :
    (error e : Outcome ε α).mapError f = error (f e) := rfl

end Outcome

end CacheAside
