namespace CacheAside.Decimal

/-- A positive number `significand * 2 ^ exponent`, together with how far the numbers reach that
    round to it, in quarters of the last place: two above it, and two or one below. -/
structure Binary where
  significand : Nat
  exponent : Int
  below : Nat

def Binary.ofBits (bits : Nat) : Binary :=
  let fraction : Nat := bits % Nat.pow 2 52
  let biased : Nat := bits / Nat.pow 2 52 % Nat.pow 2 11
  if biased = 0 then
    ⟨fraction, -1074, 2⟩
  else
    ⟨Nat.pow 2 52 + fraction, (biased : Int) - 1075,
      if fraction = 0 ∧ 1 < biased then 1 else 2⟩

def ratio (n : Nat) (two ten : Int) : Nat × Nat :=
  (n * Nat.pow 2 two.toNat * Nat.pow 10 ten.toNat,
    Nat.pow 2 (-two).toNat * Nat.pow 10 (-ten).toNat)

/-- Whether `digits * 10 ^ ten` rounds to the number. Both ends of the reach belong to it when the
    significand is even, since a tie goes there. -/
def Binary.reaches (b : Binary) (digits : Nat) (ten : Int) : Bool :=
  let (low, lowUnit) := ratio (4 * b.significand - b.below) (b.exponent - 2) (-ten)
  let (high, highUnit) := ratio (4 * b.significand + 2) (b.exponent - 2) (-ten)
  if b.significand % 2 = 0 then
    low ≤ digits * lowUnit && digits * highUnit ≤ high
  else
    low < digits * lowUnit && digits * highUnit < high

def Binary.places (b : Binary) : Int :=
  let (n, d) := ratio b.significand b.exponent 0
  if d ≤ n then
    (Nat.toDigits 10 (n / d)).length
  else
    -- The first power of ten that brings the number to one or more is this far up or one further.
    let up := (Nat.toDigits 10 (d / n)).length
    if d ≤ n * Nat.pow 10 (up - 1) then 2 - (up : Int) else 1 - (up : Int)

def Binary.onGrid (b : Binary) (ten : Int) : Option Nat :=
  let (n, d) := ratio b.significand b.exponent (-ten)
  let floor := n / d
  let above := 2 * (n % d) > d || (2 * (n % d) == d && floor % 2 == 1)
  let near := if above then floor + 1 else floor
  let far := if above then floor else floor + 1
  if b.reaches near ten then some near else if b.reaches far ten then some far else none

def trimZeros (digits : Nat) (ten : Int) : Nat × Int :=
  if 10 ≤ digits ∧ digits % 10 = 0 then trimZeros (digits / 10) (ten + 1) else (digits, ten)

/-- The fewest digits that read back as the number, with the power of ten they count. Seventeen
    digits always do. -/
def Binary.shortest (b : Binary) : Nat × Int :=
  let grids := (List.range 17).map fun n => b.places - (n + 1 : Nat)
  match grids.findSome? fun ten => (b.onGrid ten).map fun digits => (digits, ten) with
  | some (digits, ten) => trimZeros digits ten
  | none => (b.significand, b.exponent)

def exponentText (exponent : Int) : String :=
  (if exponent < 0 then "e-" else "e+") ++ toString exponent.natAbs

/-- Digits with a point, kept as `.0` for whole numbers, for a first digit between the fifth place
    after the point and the sixteenth before it; else one digit before the point and an exponent,
    which always has a sign. -/
def layout (digits : List Char) (ten : Int) : String :=
  let point := digits.length + ten
  if 0 ≤ ten ∧ point ≤ 16 then
    String.ofList (digits ++ List.replicate ten.toNat '0') ++ ".0"
  else if 0 < point ∧ point ≤ 16 then
    String.ofList (digits.take point.toNat) ++ "." ++ String.ofList (digits.drop point.toNat)
  else if -5 < point ∧ point ≤ 0 then
    "0." ++ String.ofList (List.replicate (-point).toNat '0' ++ digits)
  else
    let fraction := if digits.length ≤ 1 then "" else "." ++ String.ofList (digits.drop 1)
    String.ofList (digits.take 1) ++ fraction ++ exponentText (point - 1)

def text (x : Float) : String :=
  let bits := x.toBits.toNat
  let sign := if bits < Nat.pow 2 63 then "" else "-"
  let magnitude := bits % Nat.pow 2 63
  if magnitude = 0 then
    sign ++ "0.0"
  else
    let (digits, ten) := (Binary.ofBits magnitude).shortest
    sign ++ layout (Nat.toDigits 10 digits) ten

end CacheAside.Decimal
