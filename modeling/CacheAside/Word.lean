import CacheAside.Fault

namespace CacheAside.Word

/-- How many values a machine word has: sizes and event counters stay below it. -/
def bound : Nat := Nat.pow 2 64

def add (a b : Nat) : Except Fault Nat :=
  if a + b < bound then .ok (a + b) else .error .addOverflow

def sub (a b : Nat) : Except Fault Nat :=
  if b ≤ a then .ok (a - b) else .error .subOverflow

theorem add_of_lt {a b : Nat} (fits : a + b < bound) : add a b = .ok (a + b) := if_pos fits

theorem add_of_ge {a b : Nat} (beyond : bound ≤ a + b) : add a b = .error .addOverflow :=
  if_neg (Nat.not_lt.mpr beyond)

theorem sub_of_le {a b : Nat} (le : b ≤ a) : sub a b = .ok (a - b) := if_pos le

theorem sub_of_lt {a b : Nat} (lt : a < b) : sub a b = .error .subOverflow :=
  if_neg (Nat.not_le.mpr lt)

end CacheAside.Word
