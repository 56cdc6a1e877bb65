import CacheAside.Text.Signed

namespace CacheAside.Json

/-- A number as it is read: exact where a word holds it, else rounded. -/
inductive Number where
  | integer (value : Int)
  | float (value : Float)

namespace Number

structure Literal where
  negative : Bool
  whole : List Char
  fraction : Option (List Char)
  exponent : Option Int
  deriving DecidableEq

def readDigits (cs : List Char) : Option (List Char × List Char) :=
  match cs.takeWhile Char.isDigit with
  | [] => none
  | digits => some (digits, cs.dropWhile Char.isDigit)

def readFraction : List Char → Option (Option (List Char) × List Char)
  | '.' :: rest => (readDigits rest).map fun (digits, rest) => (some digits, rest)
  | rest => some (none, rest)

def readExponentDigits (negative : Bool) (cs : List Char) : Option (Option Int × List Char) :=
  (readDigits cs).map fun (digits, rest) =>
    let value : Int := Text.digitsValue digits
    (some (if negative then -value else value), rest)

def readExponent : List Char → Option (Option Int × List Char)
  | 'e' :: rest | 'E' :: rest =>
    match rest with
    | '+' :: rest => readExponentDigits false rest
    | '-' :: rest => readExponentDigits true rest
    | rest => readExponentDigits false rest
  | rest => some (none, rest)

def readLiteral (cs : List Char) : Option (Literal × List Char) := do
  let (negative, cs) := match cs with
    | '-' :: cs => (true, cs)
    | cs => (false, cs)
  let (whole, cs) ← readDigits cs
  if whole.head? = some '0' ∧ whole.length ≠ 1 then none else
  let (fraction, cs) ← readFraction cs
  let (exponent, cs) ← readExponent cs
  return (⟨negative, whole, fraction, exponent⟩, cs)

def extend (significand : Nat) : List Char → Nat × Nat
  | [] => (significand, 0)
  | c :: cs =>
    let longer := 10 * significand + Text.digitValue c
    if longer < Nat.pow 2 64 then
      let (significand, count) := extend longer cs
      (significand, count + 1)
    else
      (significand, 0)

def powerOfTen (exponent : Nat) : Float := Float.ofScientific 1 false exponent

def scaleDown (x : Float) (exponent : Nat) : Float :=
  if exponent ≤ 308 then
    x / powerOfTen exponent
  else if x == 0 then
    x
  else
    scaleDown (x / powerOfTen 308) (exponent - 308)
termination_by exponent

/-- A significand times a power of ten, rounded after each of the two steps; nothing where the
    result is too large. -/
def scale (significand : Nat) (exponent : Int) : Option Float :=
  let x := significand.toUInt64.toFloat
  if exponent < 0 then
    some (scaleDown x (-exponent).toNat)
  else if exponent ≤ 308 then
    let product := x * powerOfTen exponent.toNat
    if product.isInf then none else some product
  else if significand = 0 then
    some x
  else
    none

/-- The value of a written number. Digits that no word has room for are dropped; those before the
    point still count as places. -/
def Literal.value (l : Literal) : Option Number :=
  let signed (x : Float) := if l.negative then -x else x
  let (significand, count) := extend 0 l.whole
  let dropped := l.whole.length - count
  let (significand, places) := extend significand (l.fraction.getD [])
  let exact := l.fraction.isNone && l.exponent.isNone && dropped == 0
  if exact && !l.negative then
    some (.integer significand)
  else if exact && 0 < significand && significand ≤ Nat.pow 2 63 then
    some (.integer (-significand))
  else
    let exponent := (dropped : Int) - places + l.exponent.getD 0
    (scale significand exponent).map fun x => .float (signed x)

def read (cs : List Char) : Option (Number × List Char) := do
  let (literal, rest) ← readLiteral cs
  return (← literal.value, rest)

end Number

end CacheAside.Json
