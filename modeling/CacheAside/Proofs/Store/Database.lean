import CacheAside.Proofs.Finmap
import CacheAside.Proofs.Metrics.Wrapping
import CacheAside.Store.Op

namespace CacheAside.Store

def lost (c : Connection) : StoreError :=
  .ofMessage ("connection " ++ toString c.id ++ " lost contact with memory store")

def Op.onConnection : Op → Bool
  | .get .. | .upsert .. | .delete .. => true
  | _ => false

def Op.failure? : Op → Option Answer
  | .get c _ => some (.fetched (.error (lost c)))
  | .upsert c _ _ => some (.upserted (.error (lost c)))
  | .delete c _ => some (.deleted (.error (lost c)))
  | _ => none

def Answer.connection? : Answer → Option Connection
  | .connected (.ok c) => some c
  | _ => none

def Answer.deletedRow : Answer → Bool
  | .deleted (.ok existed) => existed
  | _ => false

/-- What a store is to those who use it: one finite map of rows, two switches, the number of
    connections opened, and what happened on them, the latest first. -/
structure Database where
  rows : Finmap fun _ : Int64 => String
  refusing : Bool := false
  failing : Bool := false
  opened : Nat := 0
  events : List StoreEvent := []

namespace Database

def ofRows (rows : List (Int64 × String)) : Database :=
  { rows := (rows.reverse.map Prod.toSigma).toFinmap }

def record (d : Database) (event : StoreEvent) : Database := { d with events := event :: d.events }

/-- What an operation makes of a database, and what it answers. One connection serves like another;
    only an error names it. -/
inductive Acts : Database → Op → Answer → Database → Prop where
  | refused {d : Database} (refusing : d.refusing = true) :
      Acts d .connect (.connected (.error (.ofMessage "memory store is refusing connections"))) d
  | connected {d : Database} {c : Connection} (accepting : d.refusing = false)
      (number : c.id.toNat = d.opened) :
      Acts d .connect (.connected (.ok c)) { d with opened := d.opened + 1 }
  | failed {d : Database} {op : Op} {answer : Answer} (failing : d.failing = true)
      (failure : op.failure? = some answer) : Acts d op answer (d.record .failure)
  | hit {d : Database} {c : Connection} {key : Int64} {value : String}
      (working : d.failing = false) (held : d.rows.lookup key = some value) :
      Acts d (.get c key) (.fetched (.ok (some value))) (d.record .hit)
  | missed {d : Database} {c : Connection} {key : Int64} (working : d.failing = false)
      (absent : key ∉ d.rows) : Acts d (.get c key) (.fetched (.ok none)) (d.record .miss)
  | inserted {d : Database} {c : Connection} {key : Int64} {value : String}
      (working : d.failing = false) (absent : key ∉ d.rows) :
      Acts d (.upsert c key value) (.upserted (.ok .inserted))
        ({ d with rows := d.rows.insert key value }.record .insert)
  | replaced {d : Database} {c : Connection} {key : Int64} {value : String}
      (working : d.failing = false) (present : key ∈ d.rows) :
      Acts d (.upsert c key value) (.upserted (.ok .replaced))
        ({ d with rows := d.rows.insert key value }.record .update)
  | deleted {d : Database} {c : Connection} {key : Int64} (working : d.failing = false)
      (present : key ∈ d.rows) :
      Acts d (.delete c key) (.deleted (.ok true))
        ({ d with rows := d.rows.erase key }.record .delete)
  | missing {d : Database} {c : Connection} {key : Int64} (working : d.failing = false)
      (absent : key ∉ d.rows) : Acts d (.delete c key) (.deleted (.ok false)) (d.record .delete)
  | peeked {d : Database} {key : Int64} : Acts d (.peek key) (.value (d.rows.lookup key)) d
  | metered {d : Database} {m : StoreMetrics}
      (counted : ∀ event, (m.count event).toNat = d.events.count event) :
      Acts d .metrics (.metrics m) d
  | refuse {d : Database} {refusing : Bool} : Acts d (.refuse refusing) .done { d with refusing }
  | fail {d : Database} {failing : Bool} : Acts d (.fail failing) .done { d with failing }

end Database

open Database

structure Shows (s : Store) (d : Database) : Prop where
  peek : ∀ key, s.peek key = d.rows.lookup key
  len : s.len = d.rows.keys.card
  isEmpty : s.isEmpty = true ↔ d.rows = ∅
  opened : s.opened.toNat = d.opened
  counters : ∀ event, (s.metrics.count event).toNat = d.events.count event

def CountsOnce (s : Store) (op : Op) (s' : Store) : Prop :=
  if op.onConnection then ∃ event, s'.metrics = s.metrics.record event
  else s'.metrics = s.metrics

def run (s : Store) : List Op → List Answer × Store
  | [] => ([], s)
  | op :: ops =>
    let (answer, s) := s.step op
    let (answers, last) := s.run ops
    (answer :: answers, last)

/-- A run of a store along with its database: each operation acts on the database and answers as it
    acts there, and the store shows what has become of it. -/
inductive Follows : Store → Database → List Op → List Answer → Store → Database → Prop where
  | nil {s : Store} {d : Database} : Follows s d [] [] s d
  | cons {s s' last : Store} {d d' rest : Database} {op : Op} {answer : Answer} {ops : List Op}
      {answers : List Answer} (stepped : s.step op = (answer, s')) (acts : Acts d op answer d')
      (counts : s.CountsOnce op s') (shows' : s'.Shows d')
      (follows : Follows s' d' ops answers last rest) :
      Follows s d (op :: ops) (answer :: answers) last rest

structure Holds (s : Store) (d : Database) : Prop where
  rows : ∀ key, s.table[key]? = d.rows.lookup key
  size : s.table.size = d.rows.keys.card
  refusing : s.refusing = d.refusing
  failing : s.failing = d.failing
  opened : s.opened = .ofNat d.opened
  counters : ∀ event, s.metrics.count event = .ofNat (d.events.count event)

variable {α : Type} {s s' : Store} {d d' : Database} {key : Int64} {value : String} {op : Op}
  {answer : Answer} {c : Connection} {operation : Store → α × Store}

theorem serve_of_failing (failing : s.failing = true) :
    s.serve c operation = (.error (lost c), { s with metrics := s.metrics.record .failure }) := by
  rw [serve, if_pos failing]
  rfl

theorem serve_of_working (working : s.failing = false) :
    s.serve c operation = (.ok (operation s).1, (operation s).2) := by
  rw [serve, working]
  rfl

theorem Holds.mem (holds : s.Holds d) (key : Int64) : key ∈ s.table ↔ key ∈ d.rows := by
  rw [Std.HashMap.mem_iff_isSome_getElem?, holds.rows, Finmap.lookup_isSome]

theorem Holds.contains (holds : s.Holds d) (key : Int64) :
    s.table.contains key = decide (key ∈ d.rows) := by
  rw [Bool.eq_iff_iff, ← Std.HashMap.mem_iff_contains, holds.mem, decide_eq_true_iff]

theorem Holds.record (holds : s.Holds d) (event : StoreEvent) :
    Holds { s with metrics := s.metrics.record event } (d.record event) := by
  refine ⟨holds.rows, holds.size, holds.refusing, holds.failing, holds.opened, ?_⟩
  intro counted
  simp only [StoreMetrics.count_record, holds.counters, Database.record, List.count_cons,
    beq_iff_eq, UInt64.ofNat_add]
  split <;> rfl

theorem Holds.insert (holds : s.Holds d) (key : Int64) (value : String) :
    Holds { s with table := s.table.insert key value }
      { d with rows := d.rows.insert key value } := by
  refine ⟨?_, ?_, holds.refusing, holds.failing, holds.opened, holds.counters⟩
  · intro other
    rw [Std.HashMap.getElem?_insert]
    by_cases same : other = key
    · subst same
      simp
    · simp [Ne.symm same, holds.rows, Finmap.lookup_insert_of_ne d.rows same]
  · rw [Std.HashMap.size_insert, holds.size]
    by_cases present : key ∈ d.rows
    · rw [if_pos ((holds.mem key).mpr present), Finmap.card_keys_replace present]
    · rw [if_neg (mt (holds.mem key).mp present), Finmap.card_keys_insert present]

theorem Holds.erase (holds : s.Holds d) (key : Int64) :
    Holds { s with table := s.table.erase key } { d with rows := d.rows.erase key } := by
  refine ⟨?_, ?_, holds.refusing, holds.failing, holds.opened, holds.counters⟩
  · intro other
    rw [Std.HashMap.getElem?_erase]
    by_cases same : other = key
    · subst same
      simp
    · simp [Ne.symm same, holds.rows, Finmap.lookup_erase_ne same]
  · rw [Std.HashMap.size_erase, holds.size]
    by_cases present : key ∈ d.rows
    · rw [if_pos ((holds.mem key).mpr present), ← Finmap.card_keys_erase present,
        Nat.add_sub_cancel]
    · rw [if_neg (mt (holds.mem key).mp present), Finmap.erase_of_notMem present]

theorem Holds.shows (holds : s.Holds d) (opened : d.opened < Word.bound)
    (few : d.events.length < Word.bound) : s.Shows d where
  peek := holds.rows
  len := holds.size
  isEmpty := by
    rw [Store.isEmpty, Std.HashMap.isEmpty_eq_size_eq_zero, holds.size, beq_iff_eq,
      Finmap.card_keys_eq_zero]
  opened := by
    rw [holds.opened]
    exact UInt64.toNat_ofNat_of_lt' opened
  counters := by
    intro event
    rw [holds.counters]
    exact UInt64.toNat_ofNat_of_lt' (Nat.lt_of_le_of_lt List.count_le_length few)

theorem Op.of_failure (failure : op.failure? = some answer) :
    op.onConnection = true ∧ answer.connection? = none ∧ answer.deletedRow = false := by
  cases op with
  | get | upsert | delete =>
    cases failure
    exact ⟨rfl, rfl, rfl⟩
  | connect | peek | metrics | refuse | fail => cases failure

theorem step_of_failing (failing : s.failing = true) (failure : op.failure? = some answer) :
    s.step op = (answer, { s with metrics := s.metrics.record .failure }) := by
  cases op with
  | get | upsert | delete =>
    cases failure
    simp only [step, Store.get, Store.upsert, Store.delete, serve_of_failing failing]
  | connect | peek | metrics | refuse | fail => cases failure

structure Stepped (s : Store) (d : Database) (op : Op) (answer : Answer) (s' : Store)
    (d' : Database) : Prop where
  acts : Acts d op answer d'
  counts : s.CountsOnce op s'
  holds : s'.Holds d'

theorem Holds.get (holds : s.Holds d) (working : d.failing = false) (c : Connection)
    (key : Int64) :
    ∃ d', s.Stepped d (.get c key) (s.step (.get c key)).1 (s.step (.get c key)).2 d' := by
  have served : s.failing = false := holds.failing.trans working
  cases found : s.table[key]? with
  | some value =>
    have held : d.rows.lookup key = some value := (holds.rows key).symm.trans found
    simp only [step, Store.get, serve_of_working served, found]
    exact ⟨_, .hit working held, ⟨.hit, rfl⟩, holds.record .hit⟩
  | none =>
    have absent : key ∉ d.rows := Finmap.lookup_eq_none.mp ((holds.rows key).symm.trans found)
    simp only [step, Store.get, serve_of_working served, found]
    exact ⟨_, .missed working absent, ⟨.miss, rfl⟩, holds.record .miss⟩

theorem Holds.upsert (holds : s.Holds d) (working : d.failing = false) (c : Connection)
    (key : Int64) (value : String) :
    ∃ d', s.Stepped d (.upsert c key value) (s.step (.upsert c key value)).1
      (s.step (.upsert c key value)).2 d' := by
  have served : s.failing = false := holds.failing.trans working
  simp only [step, Store.upsert, serve_of_working served, holds.contains, decide_eq_true_eq]
  by_cases present : key ∈ d.rows
  · rw [if_pos present]
    exact ⟨_, .replaced working present, ⟨.update, rfl⟩, (holds.insert key value).record .update⟩
  · rw [if_neg present]
    exact ⟨_, .inserted working present, ⟨.insert, rfl⟩, (holds.insert key value).record .insert⟩

theorem Holds.delete (holds : s.Holds d) (working : d.failing = false) (c : Connection)
    (key : Int64) :
    ∃ d', s.Stepped d (.delete c key) (s.step (.delete c key)).1 (s.step (.delete c key)).2 d' := by
  have served : s.failing = false := holds.failing.trans working
  have after := (holds.erase key).record .delete
  simp only [step, Store.delete, serve_of_working served, holds.contains]
  by_cases present : key ∈ d.rows
  · rw [decide_eq_true present]
    exact ⟨_, .deleted working present, ⟨.delete, rfl⟩, after⟩
  · rw [decide_eq_false present]
    rw [Finmap.erase_of_notMem present] at after
    exact ⟨_, .missing working present, ⟨.delete, rfl⟩, after⟩

theorem Holds.connect (holds : s.Holds d) (opened : d.opened < Word.bound) :
    ∃ d', s.Stepped d .connect (s.step .connect).1 (s.step .connect).2 d' := by
  cases refusing : d.refusing with
  | true =>
    simp only [step, Store.connect, holds.refusing, refusing, if_true]
    exact ⟨d, .refused refusing, rfl, holds⟩
  | false =>
    have accepting : s.refusing = false := holds.refusing.trans refusing
    have number : s.opened.toNat = d.opened := by
      rw [holds.opened]
      exact UInt64.toNat_ofNat_of_lt' opened
    have next : s.opened + 1 = .ofNat (d.opened + 1) := by
      rw [holds.opened, UInt64.ofNat_add]
      rfl
    have after : Holds { s with opened := s.opened + 1 } { d with opened := d.opened + 1 } :=
      ⟨holds.rows, holds.size, holds.refusing, holds.failing, next, holds.counters⟩
    have stepped : s.step .connect =
        (.connected (.ok ⟨s.opened⟩), { s with opened := s.opened + 1 }) := by
      simp [step, Store.connect, accepting]
    rw [stepped]
    exact ⟨_, .connected refusing number, rfl, after⟩

theorem Holds.failed (holds : s.Holds d) (failing : d.failing = true)
    (failure : op.failure? = some answer) :
    ∃ d', s.Stepped d op (s.step op).1 (s.step op).2 d' := by
  have counts : s.CountsOnce op { s with metrics := s.metrics.record .failure } := by
    rw [CountsOnce, (Op.of_failure failure).1]
    exact ⟨.failure, rfl⟩
  rw [step_of_failing (holds.failing.trans failing) failure]
  exact ⟨_, .failed failing failure, counts, holds.record .failure⟩

theorem Holds.step (holds : s.Holds d) (op : Op) (opened : d.opened < Word.bound)
    (few : d.events.length < Word.bound) :
    ∃ d', s.Stepped d op (s.step op).1 (s.step op).2 d' := by
  cases op with
  | connect => exact holds.connect opened
  | get c key =>
    cases failing : d.failing with
    | true => exact holds.failed failing rfl
    | false => exact holds.get failing c key
  | upsert c key value =>
    cases failing : d.failing with
    | true => exact holds.failed failing rfl
    | false => exact holds.upsert failing c key value
  | delete c key =>
    cases failing : d.failing with
    | true => exact holds.failed failing rfl
    | false => exact holds.delete failing c key
  | peek key =>
    have stepped : s.step (.peek key) = (.value (d.rows.lookup key), s) :=
      congrArg (fun value => (Answer.value value, s)) (holds.rows key)
    rw [stepped]
    exact ⟨d, .peeked, rfl, holds⟩
  | metrics => exact ⟨d, .metered (holds.shows opened few).counters, rfl, holds⟩
  | refuse refusing =>
    exact ⟨_, .refuse, rfl, holds.rows, holds.size, rfl, holds.failing, holds.opened,
      holds.counters⟩
  | fail failing =>
    exact ⟨_, .fail, rfl, holds.rows, holds.size, holds.refusing, rfl, holds.opened,
      holds.counters⟩

theorem Database.Acts.grows (acts : Acts d op answer d') :
    d'.opened ≤ d.opened + 1 ∧ d'.events.length ≤ d.events.length + 1 := by
  cases acts with
  | refused | connected | peeked | metered | refuse | fail =>
    exact ⟨by simp, Nat.le_add_right _ 1⟩
  | failed | hit | missed | inserted | replaced | deleted | missing =>
    exact ⟨Nat.le_add_right _ 1, Nat.le_refl _⟩

theorem Holds.run {ops : List Op} (holds : s.Holds d)
    (opened : d.opened + ops.length < Word.bound)
    (few : d.events.length + ops.length < Word.bound) :
    ∃ d', Follows s d ops (s.run ops).1 (s.run ops).2 d' ∧ Shows (s.run ops).2 d' := by
  induction ops generalizing s d with
  | nil => exact ⟨d, .nil, holds.shows opened few⟩
  | cons op ops ih =>
    rw [List.length_cons] at opened few
    obtain ⟨d', acts, counts, after⟩ := holds.step op (by omega) (by omega)
    obtain ⟨moreOpened, moreEvents⟩ := acts.grows
    obtain ⟨last, follows, final⟩ := ih after (by omega) (by omega)
    exact ⟨last, .cons rfl acts counts (after.shows (by omega) (by omega)) follows, final⟩

theorem Holds.ofRows (rows : List (Int64 × String)) : Holds (ofRows rows) (.ofRows rows) := by
  -- The store inserts the rows from the front, so the last one is the outermost in both.
  induction rows using List.reverseRecOn with
  | nil =>
    refine ⟨fun key => ?_, rfl, rfl, rfl, rfl, fun event => by cases event <;> rfl⟩
    rw [Store.ofRows, List.foldl_nil, Std.HashMap.getElem?_empty]
    rfl
  | append_singleton rows row ih =>
    obtain ⟨key, value⟩ := row
    rw [Store.ofRows, List.foldl_append, Database.ofRows, List.reverse_append,
      List.reverse_singleton, List.singleton_append, List.map_cons, Prod.toSigma_mk,
      Finmap.toFinmap_cons]
    exact ih.insert key value

theorem Database.Acts.numbers (acts : Acts d op answer d') :
    (∃ c, answer.connection? = some c ∧ c.id.toNat = d.opened ∧ d'.opened = d.opened + 1) ∨
      (answer.connection? = none ∧ d'.opened = d.opened) := by
  cases acts with
  | connected accepting number => exact .inl ⟨_, rfl, number, rfl⟩
  | failed failing failure => exact .inr ⟨(Op.of_failure failure).2.1, rfl⟩
  | refused | hit | missed | inserted | replaced | deleted | missing | peeked | metered | refuse
    | fail => exact .inr ⟨rfl, rfl⟩

/-- There is a row more after an insertion and one fewer after the deletion of a row. -/
theorem Database.Acts.balance (acts : Acts d op answer d') :
    d'.rows.keys.card + (if answer.deletedRow then 1 else 0) + d.events.count .insert =
      d.rows.keys.card + d'.events.count .insert := by
  cases acts with
  | failed failing failure => simp [(Op.of_failure failure).2.2, Database.record]
  | inserted working absent =>
    simp only [Answer.deletedRow, Database.record, List.count_cons_self, Bool.false_eq_true,
      if_false, Finmap.card_keys_insert absent]
    omega
  | replaced working present =>
    simp [Answer.deletedRow, Database.record, Finmap.card_keys_replace present]
  | deleted working present =>
    simp [Answer.deletedRow, Database.record, ← Finmap.card_keys_erase present]
  | refused | connected | hit | missed | missing | peeked | metered | refuse | fail =>
    simp [Answer.deletedRow, Database.record]

variable {last : Store} {rest : Database} {ops : List Op} {answers : List Answer}

theorem Follows.numbers (follows : Follows s d ops answers last rest) :
    ∃ n, rest.opened = d.opened + n ∧
      (answers.filterMap Answer.connection?).map (·.id.toNat) = List.range' d.opened n := by
  induction follows with
  | nil => exact ⟨0, rfl, rfl⟩
  | cons stepped acts counts shows' follows ih =>
    obtain ⟨n, opened, numbers⟩ := ih
    rcases acts.numbers with ⟨c, handed, number, one⟩ | ⟨none, same⟩
    · refine ⟨n + 1, by omega, ?_⟩
      rw [List.filterMap_cons_some handed, List.map_cons, numbers, one, number, List.range'_succ]
    · refine ⟨n, by omega, ?_⟩
      rw [List.filterMap_cons_none none, numbers, same]

theorem Follows.balance (follows : Follows s d ops answers last rest) :
    rest.rows.keys.card + answers.countP Answer.deletedRow + d.events.count .insert =
      d.rows.keys.card + rest.events.count .insert := by
  induction follows with
  | nil => rfl
  | cons stepped acts counts shows' follows ih =>
    have here := acts.balance
    rw [List.countP_cons]
    omega

theorem keys_ofRows (rows : List (Int64 × String)) :
    (Database.ofRows rows).rows.keys = (rows.map Prod.fst).toFinset := by
  ext key
  rw [Finmap.mem_keys, Database.ofRows, Finmap.mem_list_toFinmap, List.mem_toFinset, List.mem_map]
  constructor
  · rintro ⟨value, listed⟩
    obtain ⟨row, member, same⟩ := List.mem_map.mp listed
    cases same
    exact ⟨row, List.mem_reverse.mp member, rfl⟩
  · rintro ⟨row, member, rfl⟩
    exact ⟨row.2, List.mem_map.mpr ⟨row, List.mem_reverse.mpr member, rfl⟩⟩

/-- All connections to a store share one finite map, in whatever order calls are made on them and
    whichever clone of the store or factory opened them: a clone has no state but that of the store.
    A call that fails leaves the map as it is, and each call on a connection is counted once.
    Connections are numbered as they are opened, and of the keys that were there at the start or
    inserted those that were not deleted are left. -/
theorem connections_share_map (rows : List (Int64 × String)) (ops : List Op)
    (short : ops.length < Word.bound) :
    ∃ answers s d, (ofRows rows).run ops = (answers, s) ∧ (ofRows rows).Shows (.ofRows rows) ∧
      Follows (ofRows rows) (.ofRows rows) ops answers s d ∧
      (answers.filterMap Answer.connection?).map (·.id.toNat) = List.range s.opened.toNat ∧
      s.len + answers.countP Answer.deletedRow =
        (rows.map Prod.fst).toFinset.card + s.metrics.inserts.toNat := by
  have start := Holds.ofRows rows
  have room : 0 + ops.length < Word.bound := by rwa [Nat.zero_add]
  have small : 0 < Word.bound := Nat.two_pow_pos 64
  obtain ⟨d, follows, final⟩ := start.run room room
  obtain ⟨n, opened, numbers⟩ := follows.numbers
  have balance := follows.balance
  refine ⟨_, _, d, rfl, start.shows small small, follows, ?_, ?_⟩
  · change d.opened = 0 + n at opened
    rw [numbers, final.opened, opened, Nat.zero_add, List.range_eq_range']
    rfl
  · have inserts : ((ofRows rows).run ops).2.metrics.inserts.toNat = d.events.count .insert :=
      final.counters .insert
    rw [keys_ofRows] at balance
    rw [final.len, inserts]
    exact balance

def doubledRows : List (Int64 × String) := [(1, "a"), (2, "b"), (1, "x")]

def interruptedCalls : List Op :=
  [.connect, .upsert ⟨0⟩ 3 "c", .connect, .get ⟨1⟩ 3, .fail true, .delete ⟨0⟩ 1, .connect,
    .fail false, .refuse true, .connect, .delete ⟨1⟩ 1, .delete ⟨1⟩ 1, .upsert ⟨2⟩ 3 "d",
    .refuse false, .connect, .peek 1, .metrics]

theorem interruptedCalls_share_map : interruptedCalls.length < Word.bound ∧
    ∃ answers s d, (ofRows doubledRows).run interruptedCalls = (answers, s) ∧
      (ofRows doubledRows).Shows (.ofRows doubledRows) ∧
      Follows (ofRows doubledRows) (.ofRows doubledRows) interruptedCalls answers s d ∧
      (answers.filterMap Answer.connection?).map (·.id.toNat) = List.range s.opened.toNat ∧
      s.len + answers.countP Answer.deletedRow =
        (doubledRows.map Prod.fst).toFinset.card + s.metrics.inserts.toNat :=
  ⟨by decide, connections_share_map doubledRows interruptedCalls (by decide)⟩

end CacheAside.Store
