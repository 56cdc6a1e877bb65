import CacheAside.Config.Field
import CacheAside.Config.LoadError
import CacheAside.Json.Blank
import CacheAside.Json.Number
import CacheAside.Json.Text

namespace CacheAside.Config

abbrev Reader (α : Type) := List Char → Except LoadError (α × List Char)

/-- Why the value in front cannot stand for what was expected. It is read far enough to name it, and
    one that cannot be read is malformed. -/
def mismatch (expected : Expected) (cs : List Char) : LoadError :=
  match cs with
  | 'n' :: 'u' :: 'l' :: 'l' :: _ => .invalidType .null expected
  | 't' :: 'r' :: 'u' :: 'e' :: _ => .invalidType (.boolean true) expected
  | 'f' :: 'a' :: 'l' :: 's' :: 'e' :: _ => .invalidType (.boolean false) expected
  | '"' :: rest =>
    match Json.readText rest with
    | some (text, _) => .invalidType (.string (String.ofList text)) expected
    | none => .malformed
  | '[' :: _ => .invalidType .sequence expected
  | '\x7b' :: _ => .invalidType .map expected
  | cs =>
    match Json.Number.read cs with
    | some (.integer value, _) => .invalidType (.integer value) expected
    | some (.float value, _) => .invalidType (.float value) expected
    | none => .malformed

def readNatural (expected : Expected) : Reader Nat := fun cs =>
  let cs := Json.skipBlanks cs
  match Json.Number.read cs with
  | some (.integer value, rest) =>
    if 0 ≤ value then .ok (value.toNat, rest) else .error (.invalidValue value expected)
  | _ => .error (mismatch expected cs)

def readOptionalNatural (expected : Expected) : Reader (Option Nat) := fun cs =>
  match Json.skipBlanks cs with
  | 'n' :: rest =>
    match rest with
    | 'u' :: 'l' :: 'l' :: rest => .ok (none, rest)
    | _ => .error .malformed
  | cs => do
    let (value, rest) ← readNatural expected cs
    return (some value, rest)

def readName : Reader String := fun cs =>
  match Json.readText cs with
  | some (text, rest) => .ok (String.ofList text, rest)
  | none => .error .malformed

def readColon : Reader Unit := fun cs =>
  match Json.skipBlanks cs with
  | ':' :: rest => .ok ((), rest)
  | _ => .error .malformed

def readStrategyName : Reader LockStrategy := fun cs => do
  let (name, rest) ← readName cs
  match LockStrategy.ofName? name with
  | some strategy => .ok (strategy, rest)
  | none => .error (.unknownVariant name)

/-- A strategy by its name alone, or by its name with the value `null` in a map of one entry. A key
    that is no text makes the map malformed, whatever stands there instead. -/
def readStrategy : Reader LockStrategy := fun cs =>
  match Json.skipBlanks cs with
  | '"' :: rest => readStrategyName rest
  | '\x7b' :: rest => do
    let (strategy, rest) ← match Json.skipBlanks rest with
      | '"' :: rest => readStrategyName rest
      | _ => .error .malformed
    let ((), rest) ← readColon rest
    match Json.skipBlanks rest with
    | 'n' :: 'u' :: 'l' :: 'l' :: rest =>
      match Json.skipBlanks rest with
      | '\x7d' :: rest => .ok (strategy, rest)
      | _ => .error .malformed
    | rest => .error (mismatch .unit rest)
  | _ => .error .malformed

def readField (field : Field) (d : Draft) : Reader Draft := fun cs =>
  match field with
  | .cacheCapacity => do
    let (value, rest) ← readNatural .size cs
    return ({ d with cacheCapacity := some value }, rest)
  | .shardCount => do
    let (value, rest) ← readNatural .size cs
    return ({ d with shardCount := some value }, rest)
  | .lockStrategy => do
    let (value, rest) ← readStrategy cs
    return ({ d with lockStrategy := some value }, rest)
  | .poolMaxSize => do
    let (value, rest) ← readNatural .size cs
    return ({ d with poolMaxSize := some value }, rest)
  | .acquireTimeoutMs => do
    let (value, rest) ← readOptionalNatural .word cs
    return ({ d with acquireTimeoutMs := some value }, rest)

def readComma (first : Bool) : Reader Unit := fun cs =>
  if first then
    .ok ((), cs)
  else
    match cs with
    | ',' :: rest => .ok ((), Json.skipBlanks rest)
    | _ => .error .malformed

def readSequence (fields : List Field) (first : Bool) (d : Draft) : Reader Draft := fun cs =>
  match Json.skipBlanks cs, fields with
  | ']' :: rest, _ => .ok (d, rest)
  | _, [] => .error .malformed
  | cs, field :: fields => do
    let ((), rest) ← readComma first cs
    let (d, rest) ← readField field d rest
    readSequence fields false d rest

def readFieldName (d : Draft) : Reader Field := fun cs => do
  let (name, rest) ← readName cs
  match Field.ofName? name with
  | none => .error (.unknownField name)
  | some field => if d.gives field then .error (.duplicateField name) else .ok (field, rest)

/-- Fields by name in any order, up to the closing brace. Each round gives one more field, so that
    there are no more than `rounds` of them. -/
def readMap (rounds : Nat) (first : Bool) (d : Draft) : Reader Draft := fun cs =>
  match Json.skipBlanks cs, rounds with
  | '\x7d' :: rest, _ => .ok (d, rest)
  | _, 0 => .error .malformed
  | cs, rounds + 1 => do
    let ((), rest) ← readComma first cs
    match rest with
    | '"' :: rest => do
      let (field, rest) ← readFieldName d rest
      let ((), rest) ← readColon rest
      let (d, rest) ← readField field d rest
      readMap rounds false d rest
    | _ => .error .malformed

/-- A draft as a sequence or as a map. The round after the last field only meets a name that is
    unknown or given already. -/
def readDraft : Reader Draft := fun cs =>
  match Json.skipBlanks cs with
  | '[' :: rest => readSequence Field.all true {} rest
  | '\x7b' :: rest => readMap (Field.all.length + 1) true {} rest
  | rest => .error (mismatch .config rest)

def load (text : String) : Except LoadError Config := do
  let (draft, rest) ← readDraft text.toList
  if (Json.skipBlanks rest).isEmpty then return draft.complete else .error .malformed

end CacheAside.Config
