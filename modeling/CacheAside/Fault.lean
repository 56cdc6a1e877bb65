namespace CacheAside

/-- A defect that stops a computation half way: a number left the range of a machine word, an index
    left its storage, or the code in charge gave up with a text of its own. A fault is not an error
    in the sense of `Error`: no caller is expected to handle one. -/
inductive Fault where
  | addOverflow
  | subOverflow
  | spanOverflow
  | deadlineOverflow
  | outOfBounds (index size : Nat)
  | raised (message : String)
  deriving DecidableEq, Repr

def Fault.message : Fault → String
  | .addOverflow => "attempt to add with overflow"
  | .subOverflow => "attempt to subtract with overflow"
  | .spanOverflow => "overflow in Duration::new"
  | .deadlineOverflow => "overflow when adding duration to instant"
  | .outOfBounds index size =>
    "index out of bounds: the len is " ++ toString size ++ " but the index is " ++ toString index
  | .raised message => message

end CacheAside
