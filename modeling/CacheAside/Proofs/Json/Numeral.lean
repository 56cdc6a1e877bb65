import Mathlib.Data.List.TakeWhile
import CacheAside.Json.Number
import CacheAside.Proofs.Json.Grammar
import CacheAside.Proofs.Key.Grammar

namespace CacheAside

namespace Text

theorem Digits.isDigit {digits : List Char} (written : Digits digits) :
    ∀ c ∈ digits, c.isDigit = true :=
  fun c member => (isDigit_iff c).mpr (written.2 c member)

theorem Digits.ne_cons {digits rest : List Char} {char : Char} (written : Digits digits)
    (other : char.isDigit = false) (more : List Char) : digits ++ rest ≠ char :: more := by
  obtain ⟨first, tail, rfl⟩ := List.exists_cons_of_ne_nil written.1
  intro same
  have digit := written.isDigit first List.mem_cons_self
  rw [(List.cons.inj same).1, other] at digit
  cases digit

theorem le_foldl_digits (digits : List Char) (start : Nat) :
    start ≤ digits.foldl (fun n c => 10 * n + digitValue c) start := by
  induction digits generalizing start with
  | nil => exact Nat.le_refl start
  | cons c digits ih =>
    have rest := ih (10 * start + digitValue c)
    rw [List.foldl_cons]
    omega

/-- Only zero is written with a zero in front. -/
theorem eq_zero_of_leading_zero {n : Nat} (leading : (Nat.toDigits 10 n).head? = some '0') :
    n = 0 := by
  induction n using Nat.strongRecOn with
  | ind n ih =>
    rcases Nat.lt_or_ge n 10 with small | large
    · have single : ∀ n < 10, n.digitChar = '0' → n = 0 := by decide
      rw [Nat.toDigits_of_lt_base small] at leading
      exact single n small (Option.some.inj leading)
    · rw [Nat.toDigits_of_base_le (by decide) large, List.head?_append,
        Option.or_of_isSome (by simp [Nat.toDigits_ne_nil])] at leading
      have := ih (n / 10) (by omega) leading
      omega

end Text

namespace Json

open Text (Digits)

def Ended (rest : List Char) : Prop :=
  ∀ c ∈ rest.head?, c.isDigit = false ∧ c ≠ '.' ∧ c ≠ 'e' ∧ c ≠ 'E'

theorem ended_cons {c : Char} {rest : List Char}
    (other : c.isDigit = false ∧ c ≠ '.' ∧ c ≠ 'e' ∧ c ≠ 'E') : Ended (c :: rest) := by
  intro _ first
  cases first
  exact other

theorem Blanks.ended {cs rest : List Char} (blanks : Blanks cs rest) (ended : Ended rest) :
    Ended cs := by
  cases blanks with
  | none => exact ended
  | more blank _ =>
    simp only [isBlank, Bool.or_eq_true, beq_iff_eq] at blank
    rcases blank with ((rfl | rfl) | rfl) | rfl <;> exact ended_cons (by decide)

namespace Number

variable {cs digits rest : List Char}

theorem readDigits_append (written : Digits digits)
    (ended : ∀ c ∈ rest.head?, c.isDigit = false) :
    readDigits (digits ++ rest) = some (digits, rest) := by
  have stop : rest.takeWhile Char.isDigit = [] ∧ rest.dropWhile Char.isDigit = rest := by
    cases rest with
    | nil => exact ⟨rfl, rfl⟩
    | cons c rest => simp [ended c rfl]
  rw [readDigits, List.takeWhile_append_of_pos written.isDigit,
    List.dropWhile_append_of_pos written.isDigit, stop.1, stop.2, List.append_nil]
  cases digits with
  | nil => exact absurd rfl written.1
  | cons c digits => rfl

theorem readDigits_eq_some (read : readDigits cs = some (digits, rest)) :
    cs = digits ++ rest ∧ Digits digits ∧ ∀ c ∈ rest.head?, c.isDigit = false := by
  unfold readDigits at read
  split at read
  · cases read
  · rename_i some
    cases read
    refine ⟨(List.takeWhile_append_dropWhile ..).symm, ⟨some, fun c member => ?_⟩, ?_⟩
    · exact (Text.isDigit_iff c).mp (List.mem_takeWhile_imp member)
    · intro c first
      have stop := List.head?_dropWhile_not Char.isDigit cs
      rwa [first] at stop

def readUnsigned (negative : Bool) (cs : List Char) : Option (Literal × List Char) := do
  let (whole, cs) ← readDigits cs
  if whole.head? = some '0' ∧ whole.length ≠ 1 then none else
  let (fraction, cs) ← readFraction cs
  let (exponent, cs) ← readExponent cs
  return (⟨negative, whole, fraction, exponent⟩, cs)

theorem readLiteral_unsigned (unsigned : ∀ rest, cs ≠ '-' :: rest) :
    readLiteral cs = readUnsigned false cs := by
  rw [readLiteral]
  · rfl
  · exact fun rest same => unsigned rest same

theorem readFraction_none (ended : Ended rest) : readFraction rest = some (none, rest) := by
  unfold readFraction
  split
  · exact absurd rfl (ended '.' rfl).2.1
  · rfl

theorem readExponent_none (ended : Ended rest) : readExponent rest = some (none, rest) := by
  unfold readExponent
  split
  · exact absurd rfl (ended 'e' rfl).2.2.1
  · exact absurd rfl (ended 'E' rfl).2.2.2
  · rfl

theorem readLiteral_numeral (written : Digits digits)
    (short : digits.head? = some '0' → digits.length = 1) (ended : Ended rest) :
    readLiteral (digits ++ rest) = some (⟨false, digits, none, none⟩, rest) := by
  have single : ¬ (digits.head? = some '0' ∧ digits.length ≠ 1) :=
    fun ⟨leading, long⟩ => long (short leading)
  rw [readLiteral_unsigned (written.ne_cons rfl), readUnsigned,
    readDigits_append written fun c first => (ended c first).1]
  simp only [Option.bind_eq_bind, Option.bind_some, if_neg single, readFraction_none ended,
    readExponent_none ended]
  rfl

theorem extend_eq {start : Nat}
    (fits : digits.foldl (fun n c => 10 * n + Text.digitValue c) start < Nat.pow 2 64) :
    extend start digits =
      (digits.foldl (fun n c => 10 * n + Text.digitValue c) start, digits.length) := by
  induction digits generalizing start with
  | nil => rfl
  | cons c digits ih =>
    have longer := Text.le_foldl_digits digits (10 * start + Text.digitValue c)
    rw [List.foldl_cons] at fits ⊢
    rw [extend, if_pos (by omega), ih fits]
    rfl

theorem value_eq_integer (fits : Text.decimal digits < Word.bound) :
    Literal.value ⟨false, digits, none, none⟩ = some (.integer (Text.decimal digits)) := by
  rw [← Text.digitsValue_eq_decimal] at fits ⊢
  have extended : extend 0 digits = (Text.digitsValue digits, digits.length) := extend_eq fits
  simp [Literal.value, extended, extend]

/-- A word is read as it is written, whatever stands behind it that is no part of it. -/
theorem read_toDigits {n : Nat} (fits : n < Word.bound) (ended : Ended rest) :
    read (Nat.toDigits 10 n ++ rest) = some (.integer n, rest) := by
  have short (leading : (Nat.toDigits 10 n).head? = some '0') : (Nat.toDigits 10 n).length = 1 := by
    rw [Text.eq_zero_of_leading_zero leading]
    rfl
  have value : Literal.value ⟨false, Nat.toDigits 10 n, none, none⟩ = some (.integer n) := by
    rw [value_eq_integer (by rwa [Text.decimal_toDigits]), Text.decimal_toDigits]
  rw [read, readLiteral_numeral (Text.digits_toDigits n) short ended]
  simp only [Option.bind_eq_bind, Option.bind_some, value]
  rfl

theorem plain_of_value {l : Literal} {value : Int} (read : l.value = some (.integer value))
    (natural : 0 ≤ value) : l.negative = false ∧ l.fraction = none ∧ l.exponent = none := by
  simp only [Literal.value] at read
  split at read
  · rename_i exact
    simp only [Bool.and_eq_true, Bool.not_eq_eq_eq_not, Bool.not_true, Option.isNone_iff_eq_none]
      at exact
    exact ⟨exact.2, exact.1.1⟩
  · split at read
    · rename_i exact
      simp only [Bool.and_eq_true, decide_eq_true_eq] at exact
      cases read
      omega
    · obtain ⟨_, _, float⟩ := Option.map_eq_some_iff.mp read
      cases float

theorem readFraction_eq_none (read : readFraction cs = some (none, rest)) :
    cs = rest ∧ ∀ c ∈ rest.head?, c ≠ '.' := by
  unfold readFraction at read
  split at read
  · obtain ⟨_, _, fraction⟩ := Option.map_eq_some_iff.mp read
    cases fraction
  · rename_i pointless
    cases read
    refine ⟨rfl, fun c first => ?_⟩
    rintro rfl
    obtain ⟨more, same⟩ := List.head?_eq_some_iff.mp first
    exact pointless more same

theorem readExponentDigits_ne_none {negative : Bool} :
    readExponentDigits negative cs ≠ some (none, rest) := by
  intro read
  obtain ⟨_, _, exponent⟩ := Option.map_eq_some_iff.mp read
  cases exponent

theorem readExponent_eq_none (read : readExponent cs = some (none, rest)) :
    cs = rest ∧ ∀ c ∈ rest.head?, c ≠ 'e' ∧ c ≠ 'E' := by
  unfold readExponent at read
  split at read
  · split at read <;> exact absurd read readExponentDigits_ne_none
  · split at read <;> exact absurd read readExponentDigits_ne_none
  · rename_i small large
    cases read
    refine ⟨rfl, fun c first => ?_⟩
    obtain ⟨more, same⟩ := List.head?_eq_some_iff.mp first
    refine ⟨?_, ?_⟩
    · rintro rfl
      exact small more same
    · rintro rfl
      exact large more same

theorem readUnsigned_eq_some {l : Literal} {negative : Bool}
    (read : readUnsigned negative cs = some (l, rest)) :
    l.negative = negative ∧ (l.fraction = none → l.exponent = none →
      ∃ digits, cs = digits ++ rest ∧ Digits digits ∧ Ended rest) := by
  simp only [readUnsigned, Option.bind_eq_bind, Option.bind_eq_some_iff] at read
  obtain ⟨⟨digits, behind⟩, whole, read⟩ := read
  split at read
  · cases read
  simp only [Option.bind_eq_some_iff] at read
  obtain ⟨⟨fraction, behind'⟩, fractional, ⟨exponent, _⟩, exponential, same⟩ := read
  cases same
  refine ⟨rfl, ?_⟩
  rintro rfl rfl
  obtain ⟨rfl, pointless⟩ := readFraction_eq_none fractional
  obtain ⟨rfl, powerless⟩ := readExponent_eq_none exponential
  obtain ⟨split, written, stop⟩ := readDigits_eq_some whole
  exact ⟨digits, split, written,
    fun c first => ⟨stop c first, pointless c first, powerless c first⟩⟩

/-- What is read as a number that is no less than zero begins with digits, which end there: neither
    a sign stands before them nor a fraction or an exponent behind them. -/
theorem read_eq_natural {value : Int} (here : read cs = some (.integer value, rest))
    (natural : 0 ≤ value) :
    ∃ digits, cs = digits ++ rest ∧ Digits digits ∧ Ended rest := by
  simp only [read, Option.bind_eq_bind, Option.bind_eq_some_iff] at here
  obtain ⟨⟨l, _⟩, literal, _, value, same⟩ := here
  cases same
  obtain ⟨unsigned, whole⟩ := plain_of_value value natural
  by_cases signed : ∃ more, cs = '-' :: more
  · obtain ⟨more, rfl⟩ := signed
    change readUnsigned true more = some _ at literal
    rw [(readUnsigned_eq_some literal).1] at unsigned
    cases unsigned
  · rw [readLiteral_unsigned fun more same => signed ⟨more, same⟩] at literal
    exact (readUnsigned_eq_some literal).2 whole.1 whole.2

end Number

end Json

end CacheAside
