import CacheAside.Decimal.Shortest
import CacheAside.Text.Quoted

namespace CacheAside.Config

inductive Found where
  | null
  | boolean (value : Bool)
  | integer (value : Int)
  | float (value : Float)
  | string (text : String)
  | sequence
  | map

inductive Expected where
  | size
  | word
  | unit
  | config
  deriving DecidableEq, Repr

inductive LoadError where
  | malformed
  | unknownField (name : String)
  | duplicateField (name : String)
  | unknownVariant (name : String)
  | invalidValue (value : Int) (expected : Expected)
  | invalidType (found : Found) (expected : Expected)

def Found.text : Found → String
  | .null => "null"
  | .boolean value => "boolean `" ++ toString value ++ "`"
  | .integer value => "integer `" ++ toString value ++ "`"
  | .float value => "floating point `" ++ Decimal.text value ++ "`"
  | .string text => "string " ++ Text.quoted text
  | .sequence => "sequence"
  | .map => "map"

def Expected.text : Expected → String
  | .size => "usize"
  | .word => "u64"
  | .unit => "unit"
  | .config => "struct KvConfig"

def LoadError.message : LoadError → Option String
  | .malformed => none
  | .unknownField name =>
    some ("unknown field `" ++ name ++ "`, expected one of `cache_capacity`, `shard_count`, " ++
      "`lock_strategy`, `pool_max_size`, `acquire_timeout_ms`")
  | .duplicateField name => some ("duplicate field `" ++ name ++ "`")
  | .unknownVariant name =>
    some ("unknown variant `" ++ name ++ "`, expected `coarse` or `sharded`")
  | .invalidValue value expected =>
    some ("invalid value: integer `" ++ toString value ++ "`, expected " ++ expected.text)
  | .invalidType found expected =>
    some ("invalid type: " ++ found.text ++ ", expected " ++ expected.text)

end CacheAside.Config
