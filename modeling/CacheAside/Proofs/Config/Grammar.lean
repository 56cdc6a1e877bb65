import CacheAside.Config.Writer
import CacheAside.Proofs.Json.Grammar
import CacheAside.Proofs.Json.Numeral

namespace CacheAside.Config

open Json (Blanks Quoted)

structure InRange (c : Config) : Prop where
  cacheCapacity : c.cacheCapacity < Word.bound
  shardCount : c.shardCount < Word.bound
  poolMaxSize : c.poolMaxSize < Word.bound
  acquireTimeoutMs : ∀ millis, c.acquireTimeoutMs = some millis → millis < Word.bound

def only (c : Config) (fields : List Field) : Config :=
  let default : Config := {}
  { cacheCapacity := if .cacheCapacity ∈ fields then c.cacheCapacity else default.cacheCapacity
    shardCount := if .shardCount ∈ fields then c.shardCount else default.shardCount
    lockStrategy := if .lockStrategy ∈ fields then c.lockStrategy else default.lockStrategy
    poolMaxSize := if .poolMaxSize ∈ fields then c.poolMaxSize else default.poolMaxSize
    acquireTimeoutMs :=
      if .acquireTimeoutMs ∈ fields then c.acquireTimeoutMs else default.acquireTimeoutMs }

/-! How a configuration may be written: a relation says which texts stand for something, and what
stands behind it. Blanks may be anywhere between the parts. -/

inductive WrittenStrategy (strategy : LockStrategy) : List Char → List Char → Prop
  | name {cs rest : List Char} (name : Quoted cs strategy.name.toList rest) :
      WrittenStrategy strategy ('"' :: cs) rest
  | entry {cs word behind gap ending rest : List Char} (opened : Blanks cs ('"' :: word))
      (name : Quoted word strategy.name.toList behind) (colon : Blanks behind (':' :: gap))
      (null : Blanks gap ('n' :: 'u' :: 'l' :: 'l' :: ending))
      (closed : Blanks ending ('\x7d' :: rest)) : WrittenStrategy strategy ('\x7b' :: cs) rest

inductive WrittenValue (c : Config) : Field → List Char → List Char → Prop
  | cacheCapacity {rest : List Char} :
      WrittenValue c .cacheCapacity (Nat.toDigits 10 c.cacheCapacity ++ rest) rest
  | shardCount {rest : List Char} :
      WrittenValue c .shardCount (Nat.toDigits 10 c.shardCount ++ rest) rest
  | lockStrategy {cs rest : List Char} (written : WrittenStrategy c.lockStrategy cs rest) :
      WrittenValue c .lockStrategy cs rest
  | poolMaxSize {rest : List Char} :
      WrittenValue c .poolMaxSize (Nat.toDigits 10 c.poolMaxSize ++ rest) rest
  | unbounded {rest : List Char} (unbounded : c.acquireTimeoutMs = none) :
      WrittenValue c .acquireTimeoutMs ('n' :: 'u' :: 'l' :: 'l' :: rest) rest
  | bounded {millis : Nat} {rest : List Char} (bounded : c.acquireTimeoutMs = some millis) :
      WrittenValue c .acquireTimeoutMs (Nat.toDigits 10 millis ++ rest) rest

inductive Named (field : Field) : List Char → List Char → Prop
  | mk {cs behind gap value : List Char} (name : Quoted cs field.name.toList behind)
      (colon : Blanks behind (':' :: gap)) (blanks : Blanks gap value) :
      Named field ('"' :: cs) value

inductive WrittenEntry (c : Config) (field : Field) : List Char → List Char → Prop
  | mk {cs value rest : List Char} (named : Named field cs value)
      (written : WrittenValue c field value rest) : WrittenEntry c field cs rest

inductive Separator : Bool → List Char → List Char → Prop
  | first {cs item : List Char} (blanks : Blanks cs item) : Separator true cs item
  | comma {cs behind item : List Char} (comma : Blanks cs (',' :: behind))
      (blanks : Blanks behind item) : Separator false cs item

/-- Items for a list of fields, the first of which is the first of all or not. -/
inductive Listed (item : Field → List Char → List Char → Prop) :
    Bool → List Field → List Char → List Char → Prop
  | none {first : Bool} {rest : List Char} : Listed item first [] rest rest
  | more {first : Bool} {field : Field} {fields : List Field} {cs here behind rest : List Char}
      (separator : Separator first cs here) (written : item field here behind)
      (more : Listed item false fields behind rest) : Listed item first (field :: fields) cs rest

inductive WrittenMap (c : Config) (fields : List Field) : List Char → Prop
  | mk {cs entries ending behind : List Char} (opened : Blanks cs ('\x7b' :: entries))
      (listed : Listed (WrittenEntry c) true fields entries ending)
      (closed : Blanks ending ('\x7d' :: behind)) (ended : Blanks behind []) :
      WrittenMap c fields cs

inductive WrittenSequence (c : Config) (count : Nat) : List Char → Prop
  | mk {cs values ending behind : List Char} (opened : Blanks cs ('[' :: values))
      (listed : Listed (WrittenValue c) true (Field.all.take count) values ending)
      (closed : Blanks ending (']' :: behind)) (ended : Blanks behind []) :
      WrittenSequence c count cs

def Field.sizes : List Field := [.cacheCapacity, .shardCount, .poolMaxSize]

inductive Unfit : List Char → Prop
  | null {rest : List Char} : Unfit ('n' :: 'u' :: 'l' :: 'l' :: rest)
  | string {rest : List Char} : Unfit ('"' :: rest)
  | negative {rest : List Char} : Unfit ('-' :: rest)
  | fractional {digits rest : List Char} {mark : Char} (written : Text.Digits digits)
      (marked : mark = '.' ∨ mark = 'e' ∨ mark = 'E') : Unfit (digits ++ mark :: rest)

/-- The beginning of an entry that goes wrong behind the entries of other fields: by a name that no
    field has, by the name of a field that was given before, or by the value of a size. -/
inductive Mistake (before : List Field) : List Char → Prop
  | unknown {cs text rest : List Char} (name : Quoted cs text rest)
      (foreign : ∀ field : Field, field.name.toList ≠ text) : Mistake before ('"' :: cs)
  | repeated {field : Field} {cs rest : List Char} (name : Quoted cs field.name.toList rest)
      (given : field ∈ before) : Mistake before ('"' :: cs)
  | unfit {field : Field} {cs value : List Char} (named : Named field cs value)
      (size : field ∈ Field.sizes) (unfit : Unfit value) : Mistake before cs

inductive Faulty (c : Config) : List Char → Prop
  | map {before : List Field} {cs entries behind entry : List Char} (distinct : before.Nodup)
      (opened : Blanks cs ('\x7b' :: entries))
      (listed : Listed (WrittenEntry c) true before entries behind)
      (separator : Separator before.isEmpty behind entry) (mistake : Mistake before entry) :
      Faulty c cs
  | sequence {before after : List Field} {field : Field} {cs values behind value : List Char}
      (order : Field.all = before ++ field :: after) (opened : Blanks cs ('[' :: values))
      (listed : Listed (WrittenValue c) true before values behind)
      (separator : Separator before.isEmpty behind value) (size : field ∈ Field.sizes)
      (unfit : Unfit value) : Faulty c cs

section Writer

variable {c : Config} {item : Field → List Char → List Char → Prop} {field : Field}
  {fields : List Field} {cs rest : List Char}

theorem Listed.behind_comma (listed : Listed item true (field :: fields) cs rest) :
    Listed item false (field :: fields) (',' :: cs) rest := by
  cases listed with
  | more separator written more =>
    cases separator with
    | first blanks => exact .more (.comma .none blanks) written more

theorem listed_intercalate {text : Field → List Char}
    (written : ∀ field rest, item field (text field ++ rest) rest) (fields : List Field)
    (rest : List Char) :
    Listed item true fields ([','].intercalate (fields.map text) ++ rest) rest := by
  induction fields with
  | nil => exact .none
  | cons field fields ih =>
    cases fields with
    | nil =>
      exact .more (.first .none) (by simpa using written field rest) .none
    | cons next fields =>
      rw [List.map_cons, List.map_cons, List.intercalate_cons_cons, List.append_assoc,
        List.append_assoc]
      exact .more (.first .none) (written field _) ih.behind_comma

theorem quoted_strategy (strategy : LockStrategy) (rest : List Char) :
    Quoted (strategy.name.toList ++ '"' :: rest) strategy.name.toList rest :=
  Json.quoted_plain (by cases strategy <;> simp [LockStrategy.name]) rest

theorem quoted_name (field : Field) (rest : List Char) :
    Quoted (field.name.toList ++ '"' :: rest) field.name.toList rest :=
  Json.quoted_plain (by cases field <;> simp [Field.name]) rest

theorem toList_toString (n : Nat) : (toString n).toList = Nat.toDigits 10 n := by
  rw [Nat.toString_eq_ofList_toDigits, String.toList_ofList]

theorem writtenValue_writeField (c : Config) (field : Field) (rest : List Char) :
    WrittenValue c field ((c.writeField field).toList ++ rest) rest := by
  cases field with
  | cacheCapacity =>
    rw [writeField, toList_toString]
    exact .cacheCapacity
  | shardCount =>
    rw [writeField, toList_toString]
    exact .shardCount
  | lockStrategy =>
    rw [writeField, String.toList_append, String.toList_append, List.append_assoc,
      List.append_assoc]
    exact .lockStrategy (.name (quoted_strategy ..))
  | poolMaxSize =>
    rw [writeField, toList_toString]
    exact .poolMaxSize
  | acquireTimeoutMs =>
    rw [writeField]
    split
    · exact .unbounded ‹_›
    · rw [toList_toString]
      exact .bounded ‹_›

theorem named_name (field : Field) (value : List Char) :
    Named field ('"' :: (field.name.toList ++ '"' :: ':' :: value)) value :=
  .mk (quoted_name ..) .none .none

/-- What is written for some fields as a map is such a map. -/
theorem writtenMap_writeMap (c : Config) (fields : List Field) :
    WrittenMap c fields (c.writeMap fields).toList := by
  have entry (field : Field) (rest : List Char) : WrittenEntry c field
      (("\"" ++ field.name ++ "\":" ++ c.writeField field).toList ++ rest) rest := by
    have named := named_name field ((c.writeField field).toList ++ rest)
    refine .mk ?_ (writtenValue_writeField c field rest)
    simpa [String.toList_append] using named
  have entries := listed_intercalate entry fields ['\x7d']
  have text : (c.writeMap fields).toList = '\x7b' :: ([','].intercalate (fields.map fun field =>
      ("\"" ++ field.name ++ "\":" ++ c.writeField field).toList) ++ ['\x7d']) := by
    rw [writeMap, String.toList_append, String.toList_append, String.toList_intercalate,
      List.map_map, List.append_assoc]
    rfl
  rw [text]
  exact .mk .none entries .none .none

theorem writtenSequence_writeSequence (c : Config) (count : Nat) :
    WrittenSequence c count (c.writeSequence count).toList := by
  have values := listed_intercalate (writtenValue_writeField c) (Field.all.take count) [']']
  have text : (c.writeSequence count).toList = '[' :: ([','].intercalate
      ((Field.all.take count).map fun field => (c.writeField field).toList) ++ [']']) := by
    rw [writeSequence, String.toList_append, String.toList_append, String.toList_intercalate,
      List.map_map, List.append_assoc]
    rfl
  rw [text]
  exact .mk .none values .none .none

end Writer

end CacheAside.Config
