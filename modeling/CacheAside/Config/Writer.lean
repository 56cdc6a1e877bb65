import CacheAside.Config.Field

namespace CacheAside.Config

def writeField (c : Config) : Field → String
  | .cacheCapacity => toString c.cacheCapacity
  | .shardCount => toString c.shardCount
  | .lockStrategy => "\"" ++ c.lockStrategy.name ++ "\""
  | .poolMaxSize => toString c.poolMaxSize
  | .acquireTimeoutMs =>
    match c.acquireTimeoutMs with
    | none => "null"
    | some millis => toString millis

def writeMap (c : Config) (fields : List Field) : String :=
  let entries := fields.map fun field => "\"" ++ field.name ++ "\":" ++ c.writeField field
  "\x7b" ++ ",".intercalate entries ++ "\x7d"

def writeSequence (c : Config) (count : Nat) : String :=
  "[" ++ ",".intercalate ((Field.all.take count).map c.writeField) ++ "]"

end CacheAside.Config
