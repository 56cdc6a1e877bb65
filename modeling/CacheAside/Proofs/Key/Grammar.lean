import Mathlib.Data.List.Induction
import Mathlib.Data.Nat.Digits.Defs
import CacheAside.Service.Request

namespace CacheAside

namespace Text

def Digits (cs : List Char) : Prop := cs ≠ [] ∧ ∀ c ∈ cs, '0' ≤ c ∧ c ≤ '9'

def decimal (digits : List Char) : Nat := Nat.ofDigits 10 (digits.reverse.map digitValue)

inductive Numeral : List Char → Int → Prop where
  | unsigned {digits : List Char} (written : Digits digits) : Numeral digits (decimal digits)
  | positive {digits : List Char} (written : Digits digits) :
      Numeral ('+' :: digits) (decimal digits)
  | negative {digits : List Char} (written : Digits digits) :
      Numeral ('-' :: digits) (-(decimal digits : Int))

variable {cs digits : List Char}

theorem isDigit_iff (c : Char) : c.isDigit = true ↔ '0' ≤ c ∧ c ≤ '9' := by
  simp [Char.isDigit, Char.le_def]

/-- Read from the left, digit by digit, digits come to what they are worth. -/
theorem digitsValue_eq_decimal (digits : List Char) : digitsValue digits = decimal digits := by
  induction digits using List.reverseRecOn with
  | nil => rfl
  | append_singleton digits c ih =>
    have read : digitsValue (digits ++ [c]) = 10 * digitsValue digits + digitValue c := by
      rw [digitsValue, List.foldl_append]
      rfl
    rw [read, ih, decimal, decimal, List.reverse_append, List.reverse_singleton,
      List.singleton_append, List.map_cons, Nat.ofDigits_cons, Nat.add_comm]

theorem readNatural_eq_some {n : Nat} :
    readNatural cs = some n ↔ Digits cs ∧ decimal cs = n := by
  have written : cs ≠ [] ∧ cs.all Char.isDigit = true ↔ Digits cs := by
    simp only [Digits, List.all_eq_true, isDigit_iff]
  rw [readNatural, digitsValue_eq_decimal]
  split
  · rename_i here
    simp [written.mp here]
  · rename_i elsewhere
    simp [mt written.mpr elsewhere]

theorem map_readNatural_eq_some {sign : Int → Int} {n : Int} :
    Option.map sign (do return ((← readNatural cs : Nat) : Int)) = some n ↔
      Digits cs ∧ sign (decimal cs) = n := by
  constructor
  · intro read
    cases natural : readNatural cs with
    | none =>
      rw [natural] at read
      cases read
    | some value =>
      obtain ⟨written, rfl⟩ := readNatural_eq_some.mp natural
      rw [natural] at read
      exact ⟨written, Option.some.inj read⟩
  · rintro ⟨written, rfl⟩
    rw [readNatural_eq_some.mpr ⟨written, rfl⟩]
    rfl

theorem readSigned_eq_some {n : Int} : readSigned cs = some n ↔ Numeral cs n := by
  constructor
  · intro read
    unfold readSigned at read
    split at read
    · obtain ⟨written, rfl⟩ := map_readNatural_eq_some.mp read
      exact .negative written
    · obtain ⟨written, rfl⟩ := map_readNatural_eq_some.mp read
      exact .positive written
    · obtain ⟨written, rfl⟩ := map_readNatural_eq_some.mp read
      exact .unsigned written
  · intro numeral
    cases numeral with
    | unsigned written =>
      -- No digit is a sign, so the text is not read as one that has a sign.
      have signless (sign : Char) (below : ¬ '0' ≤ sign) (rest : List Char) : cs ≠ sign :: rest :=
        fun same => below (written.2 sign (same ▸ List.mem_cons_self)).1
      unfold readSigned
      split
      · exact absurd rfl (signless '-' (by decide) _)
      · exact absurd rfl (signless '+' (by decide) _)
      · exact map_readNatural_eq_some.mpr ⟨written, rfl⟩
    | positive written | negative written =>
      exact map_readNatural_eq_some.mpr ⟨written, rfl⟩

theorem digits_toDigits (n : Nat) : Digits (Nat.toDigits 10 n) := by
  refine ⟨Nat.toDigits_ne_nil, fun c member => ?_⟩
  rw [← isDigit_iff]
  exact Nat.isDigit_of_mem_toDigits (by decide) (by decide) member

theorem decimal_toDigits (n : Nat) : decimal (Nat.toDigits 10 n) = n := by
  rw [← digitsValue_eq_decimal]
  exact Nat.ofDigitChars_ten_toDigits

theorem numeral_toString (n : Int) : Numeral (toString n).toList n := by
  rw [Int.toString_eq_repr, Int.repr_eq_if]
  split
  · rename_i nonneg
    have numeral := Numeral.unsigned (digits_toDigits n.toNat)
    rw [decimal_toDigits, Int.toNat_of_nonneg nonneg] at numeral
    rw [Nat.repr_eq_ofList_toDigits, String.toList_ofList]
    exact numeral
  · rename_i negative
    have numeral := Numeral.negative (digits_toDigits (-n).toNat)
    rw [decimal_toDigits, Int.toNat_of_nonneg (by omega), Int.neg_neg] at numeral
    rw [Nat.repr_eq_ofList_toDigits, String.toList_append, String.toList_ofList,
      String.toList_ofList]
    exact numeral

end Text

namespace Key

open Text (Numeral)

variable {raw : String}

theorem ofInt?_eq_some {n : Int} {key : Int64} :
    ofInt? n = some key ↔ key.toInt = n := by
  rw [ofInt?, Int64.toInt_minValue, Int64.toInt_maxValue]
  constructor
  · intro held
    split at held
    · rename_i range
      cases held
      exact Int64.toInt_ofInt_of_le range.1 (Int.lt_of_le_sub_one range.2)
    · cases held
  · rintro rfl
    rw [if_pos ⟨key.le_toInt, Int.le_sub_one_of_lt key.toInt_lt⟩, Int64.ofInt_toInt]

theorem parse_eq_ok_iff {key : Int64} :
    parse raw = .ok key ↔ Numeral raw.toList key.toInt := by
  have read : (Text.readSigned raw.toList).bind ofInt? = some key ↔
      Numeral raw.toList key.toInt := by
    simp [Option.bind_eq_some_iff, Text.readSigned_eq_some, ofInt?_eq_some]
  rw [← read, parse]
  cases (Text.readSigned raw.toList).bind ofInt? <;> simp

/-- What can be read are the texts that write a number within the range of signed words. -/
theorem exists_parse_iff (raw : String) (n : Int) :
    (∃ key, parse raw = .ok key ∧ key.toInt = n) ↔
      Numeral raw.toList n ∧ -2 ^ 63 ≤ n ∧ n ≤ 2 ^ 63 - 1 := by
  constructor
  · rintro ⟨key, parsed, rfl⟩
    exact ⟨parse_eq_ok_iff.mp parsed, key.le_toInt, Int.le_sub_one_of_lt key.toInt_lt⟩
  · rintro ⟨numeral, low, high⟩
    have same : (Int64.ofInt n).toInt = n :=
      Int64.toInt_ofInt_of_le low (Int.lt_of_le_sub_one high)
    exact ⟨.ofInt n, parse_eq_ok_iff.mpr (by rwa [same]), same⟩

example : parse "-0009223372036854775808" = .ok Int64.minValue := by rfl

theorem parse_toString (key : Int64) : parse (toString key) = .ok key :=
  parse_eq_ok_iff.mpr (Text.numeral_toString key.toInt)

theorem parse_error_eq {e : ServiceError} (failed : parse raw = .error e) :
    e = .invalidKey raw := by
  unfold parse at failed
  split at failed
  · cases failed
  · cases failed
    rfl

theorem parse_of_unwritten
    (unwritten : ¬ ∃ n, Numeral raw.toList n ∧ -2 ^ 63 ≤ n ∧ n ≤ 2 ^ 63 - 1) :
    parse raw = .error (.invalidKey raw) := by
  cases parsed : parse raw with
  | ok key => exact absurd ⟨_, (exists_parse_iff raw _).mp ⟨key, parsed, rfl⟩⟩ unwritten
  | error e => rw [parse_error_eq parsed]

end Key

namespace Service

open Text (Numeral)

variable {C W : Type} {rawKey : String} {e : ServiceError}

theorem parse_error (failed : Key.parse rawKey = .error e) :
    Response.ofError e = ⟨.badRequest, "Invalid key format. Key must be an integer."⟩ := by
  rw [Key.parse_error_eq failed]
  rfl

theorem respond_of_error {α : Type} (failed : Key.parse rawKey = .error e)
    (toResponse : α → Response)
    (operation : Int64 → State C W → Outcome ServiceError α × State C W) (s : State C W) :
    respond rawKey toResponse operation s =
      (.ok ⟨.badRequest, "Invalid key format. Key must be an integer."⟩, s) := by
  rw [respond, failed, ← parse_error failed]

/-- The keys that are read are the numbers that fit a signed word: digits with one sign at most,
    whatever zeros they begin with. A request with any other text for a key is turned away, and
    nothing in the service, its cache and its pool or in the store behind them is touched. -/
theorem keys_follow_grammar :
    (∀ (raw : String) (n : Int), (∃ key, Key.parse raw = .ok key ∧ key.toInt = n) ↔
      Numeral raw.toList n ∧ -2 ^ 63 ≤ n ∧ n ≤ 2 ^ 63 - 1) ∧
    (∀ key : Int64, Key.parse (toString key) = .ok key) ∧
    ∀ raw : String, (¬ ∃ n, Numeral raw.toList n ∧ -2 ^ 63 ≤ n ∧ n ≤ 2 ^ 63 - 1) →
      Key.parse raw = .error (.invalidKey raw) ∧
      ∀ {C W : Type} (backend : Backend C (State C W)) (now : Instant) (s : State C W)
        (body : Option String),
        handleGet backend now raw s =
          (.ok ⟨.badRequest, "Invalid key format. Key must be an integer."⟩, s) ∧
        handlePut backend now raw body s =
          (.ok ⟨.badRequest, "Invalid key format. Key must be an integer."⟩, s) ∧
        handleDelete backend now raw s =
          (.ok ⟨.badRequest, "Invalid key format. Key must be an integer."⟩, s) := by
  refine ⟨Key.exists_parse_iff, Key.parse_toString, fun raw unwritten => ?_⟩
  have failed := Key.parse_of_unwritten unwritten
  exact ⟨failed, fun backend now s body => ⟨respond_of_error failed _ _ s,
    respond_of_error failed _ _ s, respond_of_error failed _ _ s⟩⟩

theorem doubleSign_turned_away :
    (¬ ∃ n, Numeral "--1".toList n ∧ -2 ^ 63 ≤ n ∧ n ≤ 2 ^ 63 - 1) ∧
    Key.parse "--1" = .error (.invalidKey "--1") ∧
    let s : State Store.Connection Store :=
      (create (.coarse ⟨.create 2⟩) ⟨[⟨7⟩], 3, 4⟩ none, Store.ofRows [(1, "a")]);
    handleGet Store.backend.undisturbed ⟨0, 0⟩ "--1" s =
      (.ok ⟨.badRequest, "Invalid key format. Key must be an integer."⟩, s) ∧
    handlePut Store.backend.undisturbed ⟨0, 0⟩ "--1" (some "b") s =
      (.ok ⟨.badRequest, "Invalid key format. Key must be an integer."⟩, s) ∧
    handleDelete Store.backend.undisturbed ⟨0, 0⟩ "--1" s =
      (.ok ⟨.badRequest, "Invalid key format. Key must be an integer."⟩, s) := by
  have unread : Text.readSigned "--1".toList = none := by decide
  have unwritten : ¬ ∃ n, Numeral "--1".toList n ∧ -2 ^ 63 ≤ n ∧ n ≤ 2 ^ 63 - 1 := by
    rintro ⟨n, numeral, _⟩
    rw [Text.readSigned_eq_some.mpr numeral] at unread
    cases unread
  obtain ⟨failed, turnedAway⟩ := keys_follow_grammar.2.2 "--1" unwritten
  exact ⟨unwritten, failed, turnedAway _ _ _ _⟩

end Service

end CacheAside
