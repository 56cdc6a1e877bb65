import CacheAside.Error.Basic
import CacheAside.Text.Signed

namespace CacheAside.Key

def ofInt? (n : Int) : Option Int64 :=
  if Int64.minValue.toInt ≤ n ∧ n ≤ Int64.maxValue.toInt then some (Int64.ofInt n) else none

def parse (raw : String) : Except ServiceError Int64 :=
  match (Text.readSigned raw.toList).bind ofInt? with
  | some key => .ok key
  | none => .error (.invalidKey raw)

end CacheAside.Key
