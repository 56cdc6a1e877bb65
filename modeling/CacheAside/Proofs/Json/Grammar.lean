import CacheAside.Json.Blank
import CacheAside.Json.Text

namespace CacheAside.Json

inductive Blanks : List Char → List Char → Prop
  | none {rest : List Char} : Blanks rest rest
  | more {c : Char} {cs rest : List Char} (blank : isBlank c = true) (more : Blanks cs rest) :
      Blanks (c :: cs) rest

/-- A character as it may be written between quotes, and the text behind it: as itself, by a letter
    behind a backslash, or by its code in one unit or two. -/
inductive Spells : List Char → Char → List Char → Prop
  | plain {c : Char} {rest : List Char} (unquoted : c ≠ '"') (unescaped : c ≠ '\\')
      (shown : 0x20 ≤ c.toNat) : Spells (c :: rest) c rest
  | letter {e c : Char} {rest : List Char} (stands : escaped e = some c) :
      Spells ('\\' :: e :: rest) c rest
  | code {a b c d char : Char} {rest : List Char} (unit : codeUnit a b c d = some char.toNat) :
      Spells ('\\' :: 'u' :: a :: b :: c :: d :: rest) char rest
  | pair {a b c d e f g h char : Char} {high low : Nat} {rest : List Char}
      (first : codeUnit a b c d = some high) (second : codeUnit e f g h = some low)
      (isHigh : isHighSurrogate high = true) (isLow : isLowSurrogate low = true)
      (joined : char.toNat = 0x10000 + (high - 0xD800) * 0x400 + (low - 0xDC00)) :
      Spells ('\\' :: 'u' :: a :: b :: c :: d :: '\\' :: 'u' :: e :: f :: g :: h :: rest) char rest

inductive Quoted : List Char → List Char → List Char → Prop
  | closed {rest : List Char} : Quoted ('"' :: rest) [] rest
  | more {cs mid text rest : List Char} {char : Char} (first : Spells cs char mid)
      (more : Quoted mid text rest) : Quoted cs (char :: text) rest

variable {c : Char} {cs mid rest text : List Char}

theorem skipBlanks_cons_of_not_blank (visible : isBlank c = false) :
    skipBlanks (c :: rest) = c :: rest := by
  rw [skipBlanks, List.dropWhile_cons, visible]
  rfl

theorem skipBlanks_skipBlanks (cs : List Char) : skipBlanks (skipBlanks cs) = skipBlanks cs := by
  have visible := List.head?_dropWhile_not isBlank cs
  rw [← skipBlanks] at visible
  generalize skipBlanks cs = rest at visible ⊢
  cases rest with
  | nil => rfl
  | cons c rest => exact skipBlanks_cons_of_not_blank visible

theorem Blanks.skip (blanks : Blanks cs rest) : skipBlanks cs = skipBlanks rest := by
  induction blanks with
  | none => rfl
  | more blank _ ih => rw [← ih, skipBlanks, List.dropWhile_cons_of_pos blank, skipBlanks]

theorem Blanks.skip_to (blanks : Blanks cs (c :: rest)) (visible : isBlank c = false) :
    skipBlanks cs = c :: rest := by
  rw [blanks.skip, skipBlanks_cons_of_not_blank visible]

theorem not_surrogate (char : Char) :
    isHighSurrogate char.toNat = false ∧ isLowSurrogate char.toNat = false := by
  have valid := char.valid
  simp only [isHighSurrogate, isLowSurrogate, Bool.and_eq_false_iff, decide_eq_false_iff_not]
  simp only [UInt32.isValidChar, Nat.isValidChar, Char.toNat] at *
  omega

theorem Spells.readText_eq {char : Char} (spells : Spells cs char mid) :
    readText cs = (readText mid).map fun (text, rest) => (char :: text, rest) := by
  cases spells with
  | plain unquoted unescaped shown =>
    simp [readText, unescaped, Nat.not_lt.mpr shown]
  | letter stands =>
    rw [readText, stands]
    rintro a b c d rest rfl
    cases stands
  | code unit =>
    obtain ⟨notHigh, notLow⟩ := not_surrogate char
    simp [readText, unit, notHigh, notLow]
  | @pair _ _ _ _ _ _ _ _ _ high low _ first second isHigh isLow joined =>
    have same : joinSurrogates high low = char := by
      rw [joinSurrogates, ← joined, Char.ofNat_toNat]
    simp [readText, first, second, isHigh, isLow, same]

theorem Quoted.readText_eq (quoted : Quoted cs text rest) : readText cs = some (text, rest) := by
  induction quoted with
  | closed => rw [readText]
  | more first _ ih => rw [first.readText_eq, ih]; rfl

/-- A text without quotes, backslashes and controls may be written as it is. -/
theorem quoted_plain (plain : ∀ c ∈ text, c ≠ '"' ∧ c ≠ '\\' ∧ 0x20 ≤ c.toNat)
    (rest : List Char) : Quoted (text ++ '"' :: rest) text rest := by
  induction text with
  | nil => exact .closed
  | cons c text ih =>
    obtain ⟨unquoted, unescaped, shown⟩ := plain c List.mem_cons_self
    exact .more (.plain unquoted unescaped shown)
      (ih fun c member => plain c (List.mem_cons_of_mem _ member))

end CacheAside.Json
