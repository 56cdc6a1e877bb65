import Mathlib.Data.List.Nodup
import Mathlib.Data.List.Perm.Subperm
import CacheAside.Config.Loader
import CacheAside.Proofs.Config.Grammar

namespace CacheAside.Config

open Json (Blanks Ended Quoted skipBlanks)

def Draft.of (c : Config) (given : List Field) : Draft where
  cacheCapacity := if .cacheCapacity ∈ given then some c.cacheCapacity else none
  shardCount := if .shardCount ∈ given then some c.shardCount else none
  lockStrategy := if .lockStrategy ∈ given then some c.lockStrategy else none
  poolMaxSize := if .poolMaxSize ∈ given then some c.poolMaxSize else none
  acquireTimeoutMs := if .acquireTimeoutMs ∈ given then some c.acquireTimeoutMs else none

def Draft.give (d : Draft) (c : Config) : Field → Draft
  | .cacheCapacity => { d with cacheCapacity := some c.cacheCapacity }
  | .shardCount => { d with shardCount := some c.shardCount }
  | .lockStrategy => { d with lockStrategy := some c.lockStrategy }
  | .poolMaxSize => { d with poolMaxSize := some c.poolMaxSize }
  | .acquireTimeoutMs => { d with acquireTimeoutMs := some c.acquireTimeoutMs }

variable {c : Config} {field : Field} {given given' fields before : List Field} {first : Bool}
  {d : Draft} {cs item rest value : List Char} {n rounds : Nat} {expected : Expected}
  {strategy : LockStrategy}

namespace Draft

theorem complete_of (c : Config) (given : List Field) :
    (Draft.of c given).complete = c.only given := by
  simp only [complete, of, only]
  congr 1 <;> split <;> rfl

theorem gives_of (c : Config) (given : List Field) (field : Field) :
    (Draft.of c given).gives field = decide (field ∈ given) := by
  cases field <;> simp only [gives, of] <;> split <;> simp_all

theorem give_of (c : Config) (given : List Field) (field : Field) :
    (Draft.of c given).give c field = Draft.of c (field :: given) := by
  cases field <;> simp [give, of]

end Draft

theorem only_congr (c : Config) (same : ∀ field, field ∈ given ↔ field ∈ given') :
    c.only given = c.only given' := by
  simp only [only, same]

/-! Reading what was written. -/

theorem skipBlanks_digits {digits : List Char} (written : Text.Digits digits) (rest : List Char) :
    skipBlanks (digits ++ rest) = digits ++ rest := by
  obtain ⟨char, tail, rfl⟩ := List.exists_cons_of_ne_nil written.1
  have digit := written.isDigit char List.mem_cons_self
  have visible : Json.isBlank char = false := by
    rw [Bool.eq_false_iff]
    intro blank
    simp only [Json.isBlank, Bool.or_eq_true, beq_iff_eq] at blank
    rcases blank with ((rfl | rfl) | rfl) | rfl <;> cases digit
  exact Json.skipBlanks_cons_of_not_blank visible

theorem WrittenValue.visible (written : WrittenValue c field value rest) :
    skipBlanks value = value := by
  cases written with
  | cacheCapacity | shardCount | poolMaxSize | bounded =>
    exact skipBlanks_digits (Text.digits_toDigits _) _
  | unbounded => exact Json.skipBlanks_cons_of_not_blank (by decide)
  | lockStrategy written => cases written <;> exact Json.skipBlanks_cons_of_not_blank (by decide)

theorem Unfit.visible (unfit : Unfit value) : skipBlanks value = value := by
  cases unfit with
  | null | string | negative => exact Json.skipBlanks_cons_of_not_blank (by decide)
  | fractional written => exact skipBlanks_digits written _

theorem readNatural_toDigits (here : skipBlanks cs = Nat.toDigits 10 n ++ rest)
    (fits : n < Word.bound) (ended : Ended rest) : readNatural expected cs = .ok (n, rest) := by
  simp only [readNatural, here, Json.Number.read_toDigits fits ended]
  rfl

theorem readStrategyName_quoted (name : Quoted cs strategy.name.toList rest) :
    readStrategyName cs = .ok (strategy, rest) := by
  have found : LockStrategy.ofName? strategy.name = some strategy := by
    cases strategy <;> decide
  simp only [readStrategyName, readName, name.readText_eq, String.ofList_toList, bind, Except.bind,
    found]

theorem readColon_blanks (colon : Blanks cs (':' :: rest)) : readColon cs = .ok ((), rest) := by
  rw [readColon, colon.skip_to (by decide)]
  rfl

theorem readStrategy_written (here : skipBlanks cs = item)
    (written : WrittenStrategy strategy item rest) : readStrategy cs = .ok (strategy, rest) := by
  cases written with
  | name name =>
    rw [readStrategy, here]
    exact readStrategyName_quoted name
  | entry opened name colon null closed =>
    have named := readStrategyName_quoted name
    simp only [readStrategy, here, opened.skip_to (by decide), named, readColon_blanks colon,
      null.skip_to (by decide), closed.skip_to (by decide), bind, Except.bind]

theorem readOptionalNatural_digits (here : skipBlanks cs = Nat.toDigits 10 n ++ rest)
    (fits : n < Word.bound) (ended : Ended rest) :
    readOptionalNatural expected cs = .ok (some n, rest) := by
  have again : skipBlanks (skipBlanks cs) = Nat.toDigits 10 n ++ rest := by
    rw [Json.skipBlanks_skipBlanks, here]
  unfold readOptionalNatural
  split
  · rename_i null
    exact absurd (here.symm.trans null) ((Text.digits_toDigits n).ne_cons rfl _)
  · rw [readNatural_toDigits again fits ended]
    rfl

/-- A value that was written is read, and the draft gives its field from then on. -/
theorem readField_written (range : c.InRange) (here : skipBlanks cs = value)
    (written : WrittenValue c field value rest) (ended : Ended rest) (d : Draft) :
    readField field d cs = .ok (d.give c field, rest) := by
  cases written with
  | cacheCapacity =>
    simp only [readField, readNatural_toDigits here range.cacheCapacity ended]
    rfl
  | shardCount =>
    simp only [readField, readNatural_toDigits here range.shardCount ended]
    rfl
  | lockStrategy written =>
    simp only [readField, readStrategy_written here written]
    rfl
  | poolMaxSize =>
    simp only [readField, readNatural_toDigits here range.poolMaxSize ended]
    rfl
  | unbounded none =>
    simp only [readField, readOptionalNatural, here, Draft.give, none]
    rfl
  | bounded some =>
    have fits := range.acquireTimeoutMs _ some
    simp only [readField, readOptionalNatural_digits here fits ended, Draft.give, some]
    rfl

/-! Reading a list of items. -/

theorem Separator.ended (separator : Separator false cs item) : Ended cs := by
  cases separator with
  | comma comma _ => exact comma.ended (Json.ended_cons (by decide))

theorem Listed.ended {written : Field → List Char → List Char → Prop}
    (listed : Listed written false fields cs rest) (ended : Ended rest) : Ended cs := by
  cases listed with
  | none => exact ended
  | more separator _ _ => exact separator.ended

theorem Separator.ended_of_ne_nil (separator : Separator fields.isEmpty cs item)
    (some : fields ≠ []) : Ended cs := by
  rw [List.isEmpty_eq_false_iff.mpr some] at separator
  exact separator.ended

theorem ofName?_name (field : Field) : Field.ofName? field.name = some field := by
  cases field <;> decide

theorem readFieldName_fresh (name : Quoted cs field.name.toList rest) (fresh : field ∉ given) :
    readFieldName (Draft.of c given) cs = .ok (field, rest) := by
  simp only [readFieldName, readName, name.readText_eq, String.ofList_toList, bind, Except.bind,
    ofName?_name, Draft.gives_of, fresh, decide_false, Bool.false_eq_true, if_false]

theorem readFieldName_given (name : Quoted cs field.name.toList rest) (old : field ∈ given) :
    readFieldName (Draft.of c given) cs = .error (.duplicateField field.name) := by
  simp only [readFieldName, readName, name.readText_eq, String.ofList_toList, bind, Except.bind,
    ofName?_name, Draft.gives_of, old, decide_true, if_true]

theorem readFieldName_unknown {text : List Char} (name : Quoted cs text rest)
    (foreign : ∀ field : Field, field.name.toList ≠ text) (d : Draft) :
    readFieldName d cs = .error (.unknownField (String.ofList text)) := by
  have unknown : Field.ofName? (String.ofList text) = none := by
    refine List.find?_eq_none.mpr fun field _ same => foreign field ?_
    rw [of_decide_eq_true same, String.toList_ofList]
  simp only [readFieldName, readName, name.readText_eq, bind, Except.bind, unknown]

/-- A round of the map where there is a name. -/
theorem readMap_name (separator : Separator first cs ('"' :: item)) (rounds : Nat) (d : Draft) :
    readMap (rounds + 1) first d cs = (do
      let (field, rest) ← readFieldName d item
      let ((), rest) ← readColon rest
      let (d, rest) ← readField field d rest
      readMap rounds false d rest) := by
  cases separator with
  | first blanks =>
    conv_lhs => unfold readMap
    simp only [blanks.skip_to (by decide)]
    rfl
  | comma comma blanks =>
    conv_lhs => unfold readMap
    simp only [comma.skip_to (by decide)]
    change Except.bind (.ok ((), skipBlanks _)) _ = _
    rw [blanks.skip_to (by decide)]
    rfl

theorem readMap_closed (closed : Blanks cs ('\x7d' :: rest)) (rounds : Nat) (first : Bool)
    (d : Draft) : readMap rounds first d cs = .ok (d, rest) := by
  unfold readMap
  simp only [closed.skip_to (by decide)]

theorem readMap_entry (range : c.InRange) (separator : Separator first cs item)
    (entry : WrittenEntry c field item rest) (fresh : field ∉ given) (ended : Ended rest) :
    readMap (rounds + 1) first (Draft.of c given) cs =
      readMap rounds false (Draft.of c (field :: given)) rest := by
  cases entry with
  | mk named written =>
    cases named with
    | mk name colon blanks =>
      have here := blanks.skip.trans written.visible
      rw [readMap_name separator, readFieldName_fresh name fresh]
      simp only [bind, Except.bind, readColon_blanks colon,
        readField_written range here written ended, Draft.give_of]

/-- The entries of a map are read one after the other, each of which takes one round. -/
theorem readMap_listed (range : c.InRange) (listed : Listed (WrittenEntry c) first fields cs rest)
    (given : List Field) (distinct : (fields ++ given).Nodup) (ended : fields ≠ [] → Ended rest)
    (rounds : Nat) :
    readMap (fields.length + rounds) first (Draft.of c given) cs =
      readMap rounds (first && fields.isEmpty) (Draft.of c (fields.reverse ++ given)) rest := by
  induction listed generalizing given with
  | none => simp
  | @more first field fields cs item behind rest separator entry more ih =>
    have ended := ended (List.cons_ne_nil field fields)
    have fresh : field ∉ given := fun member =>
      (List.nodup_cons.mp distinct).1 (List.mem_append_right _ member)
    have distinct : (fields ++ field :: given).Nodup := List.nodup_middle.mpr distinct
    rw [List.length_cons, Nat.add_right_comm,
      readMap_entry range separator entry fresh (more.ended ended), ih _ distinct fun _ => ended]
    simp

theorem length_le_of_nodup (distinct : fields.Nodup) : fields.length ≤ Field.all.length :=
  (List.subperm_of_subset distinct fun field _ => by cases field <;> decide).length_le

theorem readSequence_value (separator : Separator first cs value)
    (visible : skipBlanks value = value) (opens : ∀ rest, value ≠ ']' :: rest)
    (fields : List Field) (d : Draft) :
    readSequence (field :: fields) first d cs = (do
      let (d, rest) ← readField field d value
      readSequence fields false d rest) := by
  cases separator with
  | first blanks =>
    conv_lhs => unfold readSequence
    rw [blanks.skip, visible]
    split
    · exact absurd rfl (opens _)
    · rename_i none
      cases none
    · rename_i some
      cases some
      rfl
  | comma comma blanks =>
    conv_lhs => unfold readSequence
    rw [comma.skip_to (by decide)]
    change Except.bind (.ok ((), skipBlanks _)) _ = _
    rw [blanks.skip, visible]
    rfl

theorem readSequence_closed (closed : Blanks cs (']' :: rest)) (fields : List Field) (first : Bool)
    (d : Draft) : readSequence fields first d cs = .ok (d, rest) := by
  unfold readSequence
  rw [closed.skip_to (by decide)]
  cases fields <;> rfl

theorem WrittenValue.ne_closing (written : WrittenValue c field value rest) (behind : List Char) :
    value ≠ ']' :: behind := by
  cases written with
  | cacheCapacity | shardCount | poolMaxSize | bounded =>
    exact (Text.digits_toDigits _).ne_cons rfl behind
  | unbounded => simp
  | lockStrategy written => cases written <;> simp

theorem Unfit.ne_closing (unfit : Unfit value) (behind : List Char) : value ≠ ']' :: behind := by
  cases unfit with
  | null | string | negative => simp
  | fractional written => exact written.ne_cons rfl behind

/-- The values of a sequence are read one after the other for the fields in front. -/
theorem readSequence_listed (range : c.InRange)
    (listed : Listed (WrittenValue c) first fields cs rest) (given : List Field)
    (ended : fields ≠ [] → Ended rest) (missing : List Field) :
    readSequence (fields ++ missing) first (Draft.of c given) cs =
      readSequence missing (first && fields.isEmpty) (Draft.of c (fields.reverse ++ given))
        rest := by
  induction listed generalizing given with
  | none => simp
  | @more first field fields cs item behind rest separator written more ih =>
    have ended := ended (List.cons_ne_nil field fields)
    have read := readField_written range written.visible written (more.ended ended)
    rw [List.cons_append, readSequence_value separator written.visible written.ne_closing, read,
      Draft.give_of]
    simp only [bind, Except.bind]
    rw [ih _ fun _ => ended]
    simp

/-! Loading what was written. -/

theorem readDraft_map (opened : Blanks cs ('\x7b' :: rest)) :
    readDraft cs = readMap (Field.all.length + 1) true {} rest := by
  rw [readDraft, opened.skip_to (by decide)]
  rfl

theorem readDraft_sequence (opened : Blanks cs ('[' :: rest)) :
    readDraft cs = readSequence Field.all true {} rest := by
  rw [readDraft, opened.skip_to (by decide)]
  rfl

theorem load_of_readDraft {text : String}
    (read : readDraft text.toList = .ok (Draft.of c given, rest)) (ended : Blanks rest []) :
    load text = .ok (c.only given) := by
  simp only [load, read, bind, Except.bind, ended.skip, Draft.complete_of]
  rfl

theorem load_map (range : c.InRange) (distinct : fields.Nodup) {text : String}
    (written : WrittenMap c fields text.toList) : load text = .ok (c.only fields) := by
  cases written with
  | mk opened listed closed ended =>
    obtain ⟨spare, rounds⟩ := Nat.exists_eq_add_of_le (length_le_of_nodup distinct)
    have entries := readMap_listed range listed [] (by simpa using distinct)
      (fun _ => closed.ended (Json.ended_cons (by decide))) (spare + 1)
    rw [readMap_closed closed, List.append_nil, ← Nat.add_assoc, ← rounds] at entries
    rw [load_of_readDraft ((readDraft_map opened).trans entries) ended]
    exact congrArg Except.ok (only_congr c fun field => List.mem_reverse)

theorem load_sequence (range : c.InRange) {count : Nat} {text : String}
    (written : WrittenSequence c count text.toList) :
    load text = .ok (c.only (Field.all.take count)) := by
  cases written with
  | mk opened listed closed ended =>
    have values := readSequence_listed range listed []
      (fun _ => closed.ended (Json.ended_cons (by decide))) (Field.all.drop count)
    rw [readSequence_closed closed, List.append_nil, List.take_append_drop] at values
    rw [load_of_readDraft ((readDraft_sequence opened).trans values) ended]
    exact congrArg Except.ok (only_congr c fun field => List.mem_reverse)

/-! Reading what goes wrong. -/

theorem readNatural_unfit (here : skipBlanks cs = value) (unfit : Unfit value)
    (expected : Expected) : ∃ e, readNatural expected cs = .error e := by
  have unread (size : Int) (rest : List Char) (natural : 0 ≤ size) :
      Json.Number.read value ≠ some (.integer size, rest) := by
    intro read
    obtain ⟨digits, same, written, ended⟩ := Json.Number.read_eq_natural read natural
    cases unfit with
    | null | string | negative => exact written.ne_cons rfl _ same.symm
    | @fractional _ behind mark written' marked =>
      have plain : mark.isDigit = false := by rcases marked with rfl | rfl | rfl <;> rfl
      -- Digits end in one way only, and what was read does not end at the mark.
      have whole : Json.Number.readDigits (_ ++ mark :: behind) = _ :=
        Json.Number.readDigits_append written' fun c first => by cases first; exact plain
      rw [same, Json.Number.readDigits_append written fun c first => (ended c first).1] at whole
      cases whole
      obtain ⟨-, point, small, large⟩ := ended mark rfl
      rcases marked with rfl | rfl | rfl <;> contradiction
  simp only [readNatural, here]
  split
  · rename_i size rest read
    split
    · exact absurd read (unread size rest ‹_›)
    · exact ⟨_, rfl⟩
  · exact ⟨_, rfl⟩

theorem readField_unfit (here : skipBlanks cs = value) (unfit : Unfit value)
    (size : field ∈ Field.sizes) (d : Draft) : ∃ e, readField field d cs = .error e := by
  obtain ⟨e, read⟩ := readNatural_unfit here unfit .size
  refine ⟨e, ?_⟩
  simp only [Field.sizes, List.mem_cons, List.not_mem_nil, or_false] at size
  rcases size with rfl | rfl | rfl <;> simp only [readField, read] <;> rfl

theorem readMap_mistake (separator : Separator first cs item) (mistake : Mistake before item)
    (c : Config) (seen : before ⊆ given) (rounds : Nat) :
    ∃ e, readMap (rounds + 1) first (Draft.of c given) cs = .error e := by
  cases mistake with
  | unknown name foreign =>
    rw [readMap_name separator, readFieldName_unknown name foreign]
    exact ⟨_, rfl⟩
  | repeated name old =>
    rw [readMap_name separator, readFieldName_given name (seen old)]
    exact ⟨_, rfl⟩
  | @unfit field _ _ named size unfit =>
    cases named with
    | mk name colon blanks =>
      rw [readMap_name separator]
      by_cases old : field ∈ given
      · rw [readFieldName_given name old]
        exact ⟨_, rfl⟩
      · obtain ⟨e, read⟩ := readField_unfit (blanks.skip.trans unfit.visible) unfit size
          (Draft.of c given)
        simp only [readFieldName_fresh name old, bind, Except.bind, readColon_blanks colon, read]
        exact ⟨_, rfl⟩

theorem load_of_error {text : String} {e : LoadError} (read : readDraft text.toList = .error e) :
    load text = .error e := by
  simp only [load, read, bind, Except.bind]

theorem load_faulty (range : c.InRange) {text : String} (faulty : Faulty c text.toList) :
    ∃ e, load text = .error e := by
  cases faulty with
  | @map before _ _ _ _ distinct opened listed separator mistake =>
    -- The entries leave a round for the mistake even where they give all fields.
    obtain ⟨spare, rounds⟩ := Nat.exists_eq_add_of_le (length_le_of_nodup distinct)
    have entries := readMap_listed range listed [] (by simpa using distinct)
      separator.ended_of_ne_nil (spare + 1)
    have seen : before ⊆ before.reverse ++ [] := fun field member => by simpa using member
    obtain ⟨e, read⟩ := readMap_mistake separator mistake c seen spare
    rw [Bool.true_and, read, ← Nat.add_assoc, ← rounds] at entries
    exact ⟨e, load_of_error ((readDraft_map opened).trans entries)⟩
  | @sequence before after field _ _ _ _ order opened listed separator size unfit =>
    have values := readSequence_listed range listed [] separator.ended_of_ne_nil
      (field :: after)
    obtain ⟨e, read⟩ := readField_unfit unfit.visible unfit size (Draft.of c (before.reverse ++ []))
    rw [Bool.true_and, readSequence_value separator unfit.visible unfit.ne_closing, read,
      ← order] at values
    exact ⟨e, load_of_error ((readDraft_sequence opened).trans values)⟩

theorem only_perm (c : Config) (whole : fields.Perm Field.all) : c.only fields = c := by
  have all : c.only Field.all = c := rfl
  rw [only_congr c fun field => whole.mem_iff, all]

structure LoadsAsWritten (c : Config) : Prop where
  /-- Fields that are missing have their defaults, and the order of the others does not count. -/
  map : ∀ (fields : List Field) (text : String), fields.Nodup → WrittenMap c fields text.toList →
    load text = .ok (c.only fields)
  sequence : ∀ (count : Nat) (text : String), WrittenSequence c count text.toList →
    load text = .ok (c.only (Field.all.take count))
  faulty : ∀ text : String, Faulty c text.toList → ∃ e, load text = .error e
  writeMap : ∀ fields : List Field, fields.Nodup → load (c.writeMap fields) = .ok (c.only fields)
  writeSequence : ∀ count : Nat,
    load (c.writeSequence count) = load (c.writeMap (Field.all.take count))
  /-- Nothing is lost where all fields are written. -/
  whole : ∀ fields : List Field, fields.Perm Field.all → load (c.writeMap fields) = .ok c ∧
    load (c.writeSequence Field.all.length) = .ok c

/-- A configuration of words is loaded from every text that it may be written as, by name in any
    order or by position, and from no text that goes wrong in a name or a size. -/
theorem loads_as_written (c : Config) (range : c.InRange) : c.LoadsAsWritten where
  map fields text distinct written := load_map range distinct written
  sequence count text written := load_sequence range written
  faulty text faulty := load_faulty range faulty
  writeMap fields distinct := load_map range distinct (writtenMap_writeMap c fields)
  writeSequence count := by
    have distinct : (Field.all.take count).Nodup :=
      (List.take_sublist ..).nodup (by decide)
    rw [load_map range distinct (writtenMap_writeMap ..),
      load_sequence range (writtenSequence_writeSequence ..)]
  whole fields order := by
    have distinct : fields.Nodup := order.nodup_iff.mpr (by decide)
    refine ⟨?_, ?_⟩
    · rw [load_map range distinct (writtenMap_writeMap ..), only_perm c order]
    · rw [load_sequence range (writtenSequence_writeSequence ..), List.take_length,
        only_perm c (.refl _)]

/-- A map of two entries in another order than that of the fields, and one with a name that no field
    has behind the first of them. -/
theorem small_pool_loads_as_written :
    let c : Config := { lockStrategy := .coarse, poolMaxSize := 2 }
    c.InRange ∧
      load "\x7b \"pool_max_size\" : 2,\n\"lock_strategy\":\x7b\"coarse\":null\x7d \x7d" = .ok c ∧
      ∃ e, load "\x7b\"pool_max_size\" : 2,\"pool\":2\x7d" = .error e := by
  intro c
  have range : c.InRange := ⟨by decide, by decide, by decide, by simp [c]⟩
  have size (rest : List Char) :
      WrittenEntry c .poolMaxSize ("\"pool_max_size\" : 2".toList ++ rest) rest := by
    have name := quoted_name .poolMaxSize (" : 2".toList ++ rest)
    have value : WrittenValue c .poolMaxSize (Nat.toDigits 10 c.poolMaxSize ++ rest) rest :=
      .poolMaxSize
    rw [show Nat.toDigits 10 c.poolMaxSize = ['2'] by decide] at value
    exact .mk (.mk name (.more rfl .none) (.more rfl .none)) value
  have strategy (rest : List Char) : WrittenEntry c .lockStrategy
      ("\"lock_strategy\":\x7b\"coarse\":null\x7d".toList ++ rest) rest := by
    have name := quoted_name .lockStrategy (":\x7b\"coarse\":null\x7d".toList ++ rest)
    have coarse := quoted_strategy .coarse (":null\x7d".toList ++ rest)
    exact .mk (.mk name .none .none) (.lockStrategy (.entry .none coarse .none .none .none))
  have written : WrittenMap c [.poolMaxSize, .lockStrategy]
      "\x7b \"pool_max_size\" : 2,\n\"lock_strategy\":\x7b\"coarse\":null\x7d \x7d".toList :=
    .mk .none (.more (.first (.more rfl .none)) (size _)
      (.more (.comma .none (.more rfl .none)) (strategy _) .none)) (.more rfl .none) .none
  have faulty : Faulty c "\x7b\"pool_max_size\" : 2,\"pool\":2\x7d".toList := by
    have pool : Quoted ("pool".toList ++ '"' :: ":2\x7d".toList) "pool".toList ":2\x7d".toList :=
      Json.quoted_plain (by simp) _
    have distinct : [Field.poolMaxSize].Nodup := by decide
    have foreign (field : Field) : field.name.toList ≠ "pool".toList := by
      cases field <;> decide
    exact .map distinct .none (.more (.first .none) (size _) .none) (.comma .none .none)
      (.unknown pool foreign)
  have loads := loads_as_written c range
  exact ⟨range, loads.map _ _ (by decide) written, loads.faulty _ faulty⟩
end CacheAside.Config
