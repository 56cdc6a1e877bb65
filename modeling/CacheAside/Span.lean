import CacheAside.Word

namespace CacheAside

def Span.nanosPerSecond : Nat := 1000000000

structure Span where
  secs : Nat
  nanos : Nat
  nanos_lt : nanos < Span.nanosPerSecond
  deriving DecidableEq

namespace Span

def ofParts (secs nanos : Nat) : Except Fault Span :=
  if secs + nanos / nanosPerSecond < Word.bound then
    .ok {
      secs := secs + nanos / nanosPerSecond
      nanos := nanos % nanosPerSecond
      nanos_lt := Nat.mod_lt _ (by decide) }
  else
    .error .spanOverflow

def ofMillis (millis : Nat) : Span where
  secs := millis / 1000
  nanos := millis % 1000 * 1000000
  nanos_lt := by
    have := Nat.mod_lt millis (show 0 < 1000 by decide)
    simp only [nanosPerSecond]
    omega

def ofSecs (secs : Nat) : Span := ⟨secs, 0, by decide⟩

def fraction (part width : Nat) : String :=
  let digits := Nat.toDigits 10 part
  let padded := List.replicate (width - digits.length) '0' ++ digits
  match (padded.reverse.dropWhile (· == '0')).reverse with
  | [] => ""
  | shown => "." ++ String.ofList shown

def text (s : Span) : String :=
  if 0 < s.secs then
    toString s.secs ++ fraction s.nanos 9 ++ "s"
  else if 1000000 ≤ s.nanos then
    toString (s.nanos / 1000000) ++ fraction (s.nanos % 1000000) 6 ++ "ms"
  else if 1000 ≤ s.nanos then
    toString (s.nanos / 1000) ++ fraction (s.nanos % 1000) 3 ++ "µs"
  else
    toString s.nanos ++ "ns"

end Span

/-- A reading of the clock that only runs forward, which keeps whole seconds in a signed word. -/
structure Instant where
  secs : Nat
  nanos : Nat
  deriving DecidableEq

namespace Instant

def after (now : Instant) (s : Span) : Except Fault Instant :=
  let nanos := now.nanos + s.nanos
  let secs := now.secs + s.secs + nanos / Span.nanosPerSecond
  if secs < Nat.pow 2 63 then .ok ⟨secs, nanos % Span.nanosPerSecond⟩ else .error .deadlineOverflow

end Instant

end CacheAside
