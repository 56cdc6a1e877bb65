import CacheAside.Proofs.Service.Counting
import CacheAside.Proofs.Service.Transparency

namespace CacheAside

def Request.key? : Request → Option Int64
  | .get rawKey | .put rawKey _ | .delete rawKey => (Key.parse rawKey).toOption
  | .stats => none

theorem Key.parse_eq_ok {rawKey : String} {key : Int64}
    (parsed : (parse rawKey).toOption = some key) : parse rawKey = .ok key := by
  cases result : parse rawKey with
  | error e =>
    rw [result] at parsed
    cases parsed
  | ok key' =>
    rw [result] at parsed
    exact congrArg Except.ok (Option.some.inj parsed)

def Request.isRead : Request → Bool
  | .get _ => true
  | _ => false

def Request.isWrite : Request → Bool
  | .put .. => true
  | _ => false

def Request.isDelete : Request → Bool
  | .delete _ => true
  | _ => false

def Store.Switches (f : Store → Store) : Prop :=
  ∀ s, ∃ refusing failing, f s = (s.refuse refusing).fail failing

namespace Service

open Store (Connection)

section Journal

variable {C W : Type}

def attempted {α : Type} (rawKey : String)
    (operation : Int64 → State C W → Outcome ServiceError α × State C W) (s : State C W) :
    Option (Outcome ServiceError Unit) :=
  (Key.parse rawKey).toOption.map fun key => (operation key s).1.map fun _ => ()

def attempt (backend : Backend C (State C W)) (now : Instant) (request : Request) (s : State C W) :
    Option (Outcome ServiceError Unit) :=
  match request with
  | .get rawKey => attempted rawKey (read backend now) s
  | .put rawKey body => attempted rawKey (fun key => write backend now key (body.getD "")) s
  | .delete rawKey => attempted rawKey (delete backend now) s
  | .stats => none

structure Entry where
  now : Instant
  request : Request
  outcome : Option (Outcome ServiceError Unit)
  answer : Outcome Empty Response

namespace Entry

def succeeded (e : Entry) : Bool :=
  match e.outcome with
  | some (.ok _) => true
  | _ => false

def refused (e : Entry) : Bool :=
  match e.outcome with
  | some (.error e) => e.acquiring
  | _ => false

def unwound (e : Entry) : Bool :=
  match e.outcome with
  | some (.fault _) => true
  | _ => false

def failed (e : Entry) : Bool :=
  match e.outcome with
  | some (.error (.store _)) => true
  | _ => false

def internalError (e : Entry) : Bool :=
  match e.answer with
  | .ok response => response.status == .internalError
  | _ => false

end Entry

def log (b : Backend C W) (s : State C W) : List (Arrival W) → List Entry × State C W
  | [] => ([], s)
  | a :: arrivals =>
    let before := (s.1, a.before s.2)
    let (answer, after) := handle b.undisturbed a.now a.request before
    let (journal, last) := log b after arrivals
    (⟨a.now, a.request, attempt b.undisturbed a.now a.request before, answer⟩ :: journal, last)

/-- A request whose key cannot be read changes nothing, and no more does one for the counters. -/
theorem handle_of_unread (backend : Backend C (State C W)) (now : Instant) (s : State C W)
    {request : Request} (unread : request.key? = none) :
    (handle backend now request s).2 = s ∧ attempt backend now request s = none ∧
      ∃ response, (handle backend now request s).1 = .ok response ∧
        response.status ≠ .internalError := by
  cases request with
  | get rawKey | put rawKey body | delete rawKey =>
    cases parsed : Key.parse rawKey with
    | error e =>
      simp only [handle, handleGet, handlePut, handleDelete, respond, attempt, attempted, parsed,
        true_and]
      exact ⟨rfl, _, rfl, by rw [parse_error parsed]; decide⟩
    | ok key =>
      rw [Request.key?, parsed] at unread
      cases unread
  | stats => exact ⟨rfl, rfl, _, rfl, by simp [handleStats]⟩

end Journal

/-- What a service, its cache and its store have counted agrees with each other, and with what
    became of the requests. -/
structure Reconciles (service : ServiceEvent → Nat) (cache : CacheEvent → Nat)
    (store : StoreEvent → Nat) (journal : List Entry) : Prop where
  totalGets : service .get = service .cacheHit + service .storeRead +
    journal.countP fun e => e.request.isRead && (e.refused || e.unwound)
  getHits : cache .getHit = service .cacheHit
  getMisses : cache .getMiss = service .get - service .cacheHit
  storeReads : service .storeRead = store .hit + store .miss +
    journal.countP fun e => e.request.isRead && e.failed
  inserts : cache .insertNew = store .hit
  updates : cache .insertUpdate = 0
  writes : service .write = store .insert + store .update
  deletes : service .delete = store .delete
  errors : service .error = store .failure + journal.countP Entry.refused
  answers : service .error = journal.countP Entry.internalError
  asked : service .get = journal.countP fun e => e.request.isRead && e.outcome.isSome
  written : service .write = journal.countP fun e => e.request.isWrite && e.succeeded
  deleted : service .delete = journal.countP fun e => e.request.isDelete && e.succeeded

def Trace.Reconciles (t : Trace) (journal : List Entry) : Prop :=
  Service.Reconciles (t.service.count ·) (t.cache.count ·) (t.store.count ·) journal

structure Trace.Within (t : Trace) (n : Nat) : Prop where
  service : ∀ event, t.service.count event ≤ n
  cache : ∀ event, t.cache.count event ≤ n
  store : ∀ event, t.store.count event ≤ n

variable {α : Type} {now : Instant} {timeout : Option Span} {s s' s'' : State Connection Store}
  {trace first second : Trace} {journal journal' : List Entry} {n n' : Nat}

theorem Trace.Within.of_nodup (service : trace.service.Nodup) (cache : trace.cache.Nodup)
    (store : trace.store.Nodup) : trace.Within 1 :=
  ⟨List.nodup_iff_count.mp service, List.nodup_iff_count.mp cache, List.nodup_iff_count.mp store⟩

theorem Trace.Within.append (within : first.Within n) (within' : second.Within n') :
    (first.append second).Within (n + n') := by
  refine ⟨fun event => ?_, fun event => ?_, fun event => ?_⟩
  · rw [Trace.append, List.count_append]
    exact Nat.add_le_add (within.service event) (within'.service event)
  · rw [Trace.append, List.count_append]
    exact Nat.add_le_add (within.cache event) (within'.cache event)
  · rw [Trace.append, List.count_append]
    exact Nat.add_le_add (within.store event) (within'.store event)

theorem Trace.Reconciles.append (books : first.Reconciles journal)
    (later : second.Reconciles journal') :
    (first.append second).Reconciles (journal ++ journal') := by
  obtain ⟨totalGets, getHits, getMisses, storeReads, inserts, updates, writes, deletes, errors,
    answers, asked, written, deleted⟩ := books
  obtain ⟨totalGets', getHits', getMisses', storeReads', inserts', updates', writes', deletes',
    errors', answers', asked', written', deleted'⟩ := later
  constructor <;> simp only [Trace.append, List.count_append, List.countP_append] <;> omega

theorem ReadTrace.within {outcome : Outcome ServiceError (Option String)}
    (read : ReadTrace now timeout outcome trace) : trace.Within 1 := by
  cases read <;> exact .of_nodup (by decide) (by decide) (by decide)

theorem ReadTrace.reconciles {outcome : Outcome ServiceError (Option String)}
    (read : ReadTrace now timeout outcome trace) (rawKey : String) :
    trace.Reconciles [⟨now, .get rawKey, some (outcome.map fun _ => ()),
      (outcome.map Response.ofRead).recover .ofError⟩] := by
  cases read with
  | @refused e acquiring =>
    cases e with
    | connection | timeout => constructor <;> rfl
    | invalidKey | store => cases acquiring
  | _ => constructor <;> rfl

theorem ChangeTrace.within {event : ServiceEvent} {stored : α → StoreEvent}
    {outcome : Outcome ServiceError α}
    (change : ChangeTrace now timeout event stored outcome trace) : trace.Within 1 := by
  cases change with
  | changed a dropped =>
    refine .of_nodup (by simp) ?_ (by simp)
    cases dropped <;> simp
  | _ => exact .of_nodup (by decide) (by decide) (by decide)

theorem ChangeTrace.reconciles {event : ServiceEvent} {stored : α → StoreEvent}
    {outcome : Outcome ServiceError α} (change : ChangeTrace now timeout event stored outcome trace)
    {request : Request} (unread : request.isRead = false) (toResponse : α → Response)
    (changed : ∀ a (dropped : Bool), Trace.Reconciles
      ⟨[event], if dropped then [.removal] else [], [stored a]⟩
      [⟨now, request, some (.ok ()), .ok (toResponse a)⟩]) :
    trace.Reconciles [⟨now, request, some (outcome.map fun _ => ()),
      (outcome.map toResponse).recover .ofError⟩] := by
  cases change with
  | changed a dropped => exact changed a dropped
  | @refused e acquiring =>
    cases request with
    | get => cases unread
    | put | delete | stats =>
      cases e with
      | connection | timeout => constructor <;> rfl
      | invalidKey | store => cases acquiring
  | failed | unwound =>
    cases request with
    | get => cases unread
    | put | delete | stats => constructor <;> rfl

theorem upsert_reconciles {outcome : Outcome ServiceError Upserted}
    (change : ChangeTrace now timeout .write Store.upsertEvent outcome trace) (rawKey : String)
    (body : Option String) :
    trace.Reconciles [⟨now, .put rawKey body, some (outcome.map fun _ => ()),
      (outcome.map Response.ofWrite).recover .ofError⟩] := by
  refine change.reconciles rfl Response.ofWrite ?_
  intro a dropped
  cases a <;> cases dropped <;> constructor <;> rfl

theorem delete_reconciles {outcome : Outcome ServiceError Unit}
    (change : ChangeTrace now timeout .delete (fun _ => .delete) outcome trace) (rawKey : String) :
    trace.Reconciles [⟨now, .delete rawKey, some (outcome.map fun _ => ()),
      (outcome.map fun _ => Response.ofDelete).recover .ofError⟩] := by
  refine change.reconciles rfl (fun _ => Response.ofDelete) ?_
  intro a dropped
  cases dropped <;> constructor <;> rfl

theorem ChangeTrace.map {β : Type} {event : ServiceEvent} {stored : α → StoreEvent}
    {stored' : β → StoreEvent} {outcome : Outcome ServiceError α} (f : α → β)
    (same : ∀ a, stored' (f a) = stored a)
    (change : ChangeTrace now timeout event stored outcome trace) :
    ChangeTrace now timeout event stored' (outcome.map f) trace := by
  cases change with
  | changed a dropped =>
    rw [← same]
    exact .changed (f a) dropped
  | failed e => exact .failed e
  | refused acquiring => exact .refused acquiring
  | unwound bounded beyond => exact .unwound bounded beyond

def Entry.Overdue (timeout : Option Span) (e : Entry) : Prop :=
  ∀ fault, e.outcome = some (.fault fault) →
    ∃ span, timeout = some span ∧ e.now.after span = .error fault

structure Accounted (timeout : Option Span) (s : State Connection Store) (journal : List Entry)
    (n : Nat) (trace : Trace) (s' : State Connection Store) : Prop where
  ready : s'.1.Ready timeout
  counted : Counted s trace s'
  within : trace.Within n
  reconciles : trace.Reconciles journal
  overdue : ∀ e ∈ journal, e.Overdue timeout

theorem Accounted.append (accounted : Accounted timeout s journal n first s')
    (later : Accounted timeout s' journal' n' second s'') :
    Accounted timeout s (journal ++ journal') (n + n') (first.append second) s'' where
  ready := later.ready
  counted := accounted.counted.append later.counted
  within := accounted.within.append later.within
  reconciles := accounted.reconciles.append later.reconciles
  overdue := List.forall_mem_append.mpr ⟨accounted.overdue, later.overdue⟩

theorem Accounted.quiet {world : Store} (ready : s.1.Ready timeout)
    (metrics : world.metrics = s.2.metrics) :
    Accounted timeout s [] 0 ⟨[], [], []⟩ (s.1, world) where
  ready := ready
  counted := .uncached rfl rfl metrics
  within := by constructor <;> exact fun _ => Nat.le_refl 0
  reconciles := by constructor <;> rfl
  overdue := fun _ member => absurd member List.not_mem_nil

/-- A request that asks for nothing is only written down. -/
theorem Accounted.unread {e : Entry} (ready : s.1.Ready timeout) (nothing : e.outcome = none)
    (answered : ∃ response, e.answer = .ok response ∧ response.status ≠ .internalError) :
    Accounted timeout s [e] 0 ⟨[], [], []⟩ s where
  ready := ready
  counted := .uncached rfl rfl rfl
  within := by constructor <;> exact fun _ => Nat.le_refl 0
  reconciles := by
    obtain ⟨now, request, outcome, answer⟩ := e
    obtain ⟨response, rfl, fine⟩ := answered
    cases nothing
    constructor <;> simp [Entry.succeeded, Entry.refused, Entry.unwound, Entry.failed,
      Entry.internalError, fine]
  overdue := by
    intro e' member fault unwound
    rw [List.mem_singleton.mp member, nothing] at unwound
    cases unwound

theorem ReadTrace.overdue {outcome : Outcome ServiceError (Option String)}
    (read : ReadTrace now timeout outcome trace) {request : Request}
    {answer : Outcome Empty Response} :
    Entry.Overdue timeout ⟨now, request, some (outcome.map fun _ => ()), answer⟩ := by
  intro fault unwound
  cases read with
  | unwound bounded beyond =>
    cases unwound
    exact ⟨_, bounded, beyond⟩
  | _ => cases unwound

theorem ChangeTrace.overdue {event : ServiceEvent} {stored : α → StoreEvent}
    {outcome : Outcome ServiceError α} (change : ChangeTrace now timeout event stored outcome trace)
    {request : Request} {answer : Outcome Empty Response} :
    Entry.Overdue timeout ⟨now, request, some (outcome.map fun _ => ()), answer⟩ := by
  intro fault unwound
  cases change with
  | unwound bounded beyond =>
    cases unwound
    exact ⟨_, bounded, beyond⟩
  | _ => cases unwound

theorem Accounted.read (ready : s.1.Ready timeout)
    (roomy : ∀ shard ∈ s.1.cache.shards, 0 < shard.capacity)
    (room : ¬ s.1.cache.Full CacheEvent.all) (rawKey : String) (key : Int64) :
    let (outcome, s') := Service.read Store.backend.undisturbed now key s
    ∃ trace, Accounted timeout s [⟨now, .get rawKey, some (outcome.map fun _ => ()),
      (outcome.map Response.ofRead).recover .ofError⟩] 1 trace s' := by
  have course : Reads Store.backend now key s _ _ := read_course ready.wellFormed room key
  obtain ⟨ready', trace, read, counted⟩ := course.counted ready roomy
  exact ⟨trace, ready', counted, read.within, read.reconciles rawKey,
    List.forall_mem_singleton.mpr read.overdue⟩

theorem Accounted.write (ready : s.1.Ready timeout) (room : ¬ s.1.cache.Full CacheEvent.all)
    (rawKey : String) (body : Option String) (key : Int64) :
    let (outcome, s') := Service.write Store.backend.undisturbed now key (body.getD "") s
    ∃ trace, Accounted timeout s [⟨now, .put rawKey body, some (outcome.map fun _ => ()),
      (outcome.map Response.ofWrite).recover .ofError⟩] 1 trace s' := by
  cases written : Service.write Store.backend.undisturbed now key (body.getD "") s with
  | mk outcome s' =>
  obtain ⟨ready', trace, change, counted⟩ :=
    (change_course ready.wellFormed room written).counted (Store.upsert_counts key _) ready
  exact ⟨trace, ready', counted, change.within, upsert_reconciles change rawKey body,
    List.forall_mem_singleton.mpr change.overdue⟩

theorem Accounted.delete (ready : s.1.Ready timeout) (room : ¬ s.1.cache.Full CacheEvent.all)
    (rawKey : String) (key : Int64) :
    let (outcome, s') := Service.delete Store.backend.undisturbed now key s
    ∃ trace, Accounted timeout s [⟨now, .delete rawKey, some (outcome.map fun _ => ()),
      (outcome.map fun _ => Response.ofDelete).recover .ofError⟩] 1 trace s' := by
  unfold Service.delete
  cases deleted : thenInvalidate key .delete (withConnection Store.backend.undisturbed now
    (fun c s => Store.backend.undisturbed.delete c key s) s) with
  | mk outcome s' =>
  obtain ⟨ready', trace, change, counted⟩ :=
    (change_course ready.wellFormed room deleted).counted (Store.delete_counts key) ready
  have change : ChangeTrace now timeout .delete (fun _ => .delete) (outcome.map fun _ => ())
      trace := change.map _ fun _ => rfl
  exact ⟨trace, ready', counted, change.within, delete_reconciles change rawKey,
    List.forall_mem_singleton.mpr change.overdue⟩

/-- Each request is accounted for, whatever becomes of it. -/
theorem handle_accounted (now : Instant) (ready : s.1.Ready timeout)
    (roomy : ∀ shard ∈ s.1.cache.shards, 0 < shard.capacity) (request : Request)
    (room : request.key?.isSome → ¬ s.1.cache.Full CacheEvent.all) :
    ∃ trace, Accounted timeout s
      [⟨now, request, attempt Store.backend.undisturbed now request s,
        (handle Store.backend.undisturbed now request s).1⟩]
      (if request.key?.isSome then 1 else 0) trace
      (handle Store.backend.undisturbed now request s).2 := by
  cases asked : request.key? with
  | none =>
    obtain ⟨same, nothing, answered⟩ := handle_of_unread Store.backend.undisturbed now s asked
    refine ⟨⟨[], [], []⟩, ?_⟩
    rw [same]
    exact .unread ready nothing answered
  | some key =>
    rw [asked] at room
    cases request with
    | get rawKey =>
      have parsed := Key.parse_eq_ok asked
      simp only [handle, handleGet, respond, attempt, attempted, parsed]
      exact Accounted.read ready roomy (room rfl) rawKey key
    | put rawKey body =>
      have parsed := Key.parse_eq_ok asked
      simp only [handle, handlePut, respond, attempt, attempted, parsed]
      exact Accounted.write ready (room rfl) rawKey body key
    | delete rawKey =>
      have parsed := Key.parse_eq_ok asked
      simp only [handle, handleDelete, respond, attempt, attempted, parsed]
      exact Accounted.delete ready (room rfl) rawKey key
    | stats => cases asked

def keyed (arrivals : List (Arrival Store)) : Nat := arrivals.countP (·.request.key?.isSome)

theorem log_accounted (arrivals : List (Arrival Store))
    (switches : ∀ a ∈ arrivals, Store.Switches a.before) (ready : s.1.Ready timeout)
    (roomy : ∀ shard ∈ s.1.cache.shards, 0 < shard.capacity)
    (tallied : ∀ event, s.1.cache.tally event ≤ n) (few : n + keyed arrivals < Word.bound) :
    ∃ trace, Accounted timeout s (log Store.backend s arrivals).1 (keyed arrivals) trace
      (log Store.backend s arrivals).2 := by
  -- Carried along is the bound on what the cache counts, which a request raises by one at most.
  induction arrivals generalizing s n with
  | nil => exact ⟨_, .quiet ready rfl⟩
  | cons a arrivals ih =>
    obtain ⟨refusing, failing, switched⟩ := switches a List.mem_cons_self s.2
    have quiet : Accounted timeout s [] 0 ⟨[], [], []⟩ (s.1, a.before s.2) :=
      .quiet ready (by rw [switched]; rfl)
    rw [keyed, List.countP_cons] at few
    have room : a.request.key?.isSome → ¬ s.1.cache.Full CacheEvent.all := by
      intro asked
      rw [if_pos asked] at few
      exact (s.1.cache.within_tally.mono tallied).not_full fun _ _ => by omega
    obtain ⟨trace, handled⟩ := handle_accounted a.now quiet.ready roomy a.request room
    have here := quiet.append handled
    have tallied' : ∀ event, (handle Store.backend.undisturbed a.now a.request
        (s.1, a.before s.2)).2.1.cache.tally event ≤
          n + (if a.request.key?.isSome then 1 else 0) := by
      intro event
      rw [handled.counted.cache.tally]
      exact Nat.add_le_add (tallied event) (handled.within.cache event)
    obtain ⟨trace', rest⟩ := ih (fun a member => switches a (List.mem_cons_of_mem _ member))
      here.ready (here.counted.cache.roomy roomy) tallied' (by rw [keyed]; omega)
    have whole := here.append rest
    rw [Nat.zero_add, Nat.add_comm] at whole
    rw [keyed, List.countP_cons]
    exact ⟨_, whole⟩

/-- Counters that started at nothing show what was counted, as long as a word can count it. -/
theorem Accounted.metrics (accounted : Accounted timeout s journal n trace s')
    (uncounted : s.1.counters = {}) (untallied : ∀ event, s.1.cache.tally event = 0)
    (unused : s.2.metrics = {}) (fits : (s.1.cache.shards.map Shard.capacity).sum < Word.bound)
    (few : n < Word.bound) :
    ∃ m, s'.1.cache.metrics = .ok m ∧
      Reconciles (fun event => (s'.1.counters.count event).toNat) m.count
        (fun event => (s'.2.metrics.count event).toNat) journal := by
  obtain ⟨ready, counted, within, books, _⟩ := accounted
  have tallies : ∀ event, s'.1.cache.tally event = trace.cache.count event := by
    intro event
    rw [counted.cache.tally, untallied, Nat.zero_add]
  obtain ⟨m, shown, counts⟩ := ready.wellFormed.metrics
    (fun event => Nat.lt_of_le_of_lt (tallies event ▸ within.cache event) few)
    (counted.cache.capacities ▸ fits)
  refine ⟨m, shown, ?_⟩
  have service : (fun event => (s'.1.counters.count event).toNat) = (trace.service.count ·) := by
    funext event
    rw [counted.service, uncounted]
    exact toNat_count_foldl_record ServiceCounters.count_record (by cases event <;> rfl)
      (Nat.lt_of_le_of_lt (within.service event) few)
  have stored : (fun event => (s'.2.metrics.count event).toNat) = (trace.store.count ·) := by
    funext event
    rw [counted.store, unused]
    exact toNat_count_foldl_record StoreMetrics.count_record (by cases event <;> rfl)
      (Nat.lt_of_le_of_lt (within.store event) few)
  have cached : m.count = (trace.cache.count ·) := by
    funext event
    rw [counts, tallies]
  rw [service, stored, cached]
  exact books

/-- However requests turn out, the counters of a service, its cache and its store tell the same
    story. Whether a store was asked, what it said, what was cached and which requests failed can be
    seen in more than one of them, and they agree. -/
theorem counters_reconcile {capacity maxSize : Nat} {policy : CachePolicy}
    {cache : Cache Int64 String} {pool : Pool Connection}
    (built : Cache.build capacity policy = .ok cache) (fits : capacity < Word.bound)
    (created : Pool.create maxSize = .ok pool) (timeout : Option Span) {store : Store}
    (uncounted : store.metrics = {}) (arrivals : List (Arrival Store))
    (switches : ∀ a ∈ arrivals, Store.Switches a.before) (few : keyed arrivals < Word.bound) :
    (let (journal, s) := log Store.backend (create cache pool timeout, store) arrivals
    (∃ m, s.1.cache.metrics = .ok m ∧
      Reconciles (fun event => (s.1.counters.count event).toNat) m.count
        (fun event => (s.2.metrics.count event).toNat) journal) ∧
    ∀ e ∈ journal, e.Overdue timeout) ∧
    ∀ now request (s : State Connection Store), request.key? = none →
      (handle Store.backend.undisturbed now request s).2 = s := by
  refine ⟨?_, fun now request s unread => (handle_of_unread _ now s unread).1⟩
  obtain ⟨wellFormed, _⟩ := Cache.build_wellFormed built
  obtain ⟨untallied, roomy, whole⟩ := Cache.build_counters built
  obtain ⟨balanced, size, positive⟩ := Pool.create_balanced created
  have ready : (create cache pool timeout).Ready timeout :=
    ⟨⟨balanced, size ▸ positive⟩, rfl, wellFormed⟩
  obtain ⟨trace, accounted⟩ :=
    log_accounted (s := (create cache pool timeout, store)) (n := 0) arrivals switches ready roomy
      (fun event => Nat.le_of_eq (untallied event)) (by omega)
  exact ⟨accounted.metrics rfl untallied uncounted (whole.trans_lt fits) few,
    accounted.overdue⟩

theorem outage_reconciles :
    Cache.build 2 .coarse = .ok (.coarse ⟨.create 2⟩ : Cache Int64 String) ∧ 2 < Word.bound ∧
      Pool.create 1 = .ok (⟨[], 0, 1⟩ : Pool Connection) ∧ ({} : Store).metrics = {} ∧
      (∀ a ∈ outage, Store.Switches a.before) ∧ keyed outage < Word.bound ∧
      (let (journal, s) :=
        log Store.backend (create (.coarse ⟨.create 2⟩) ⟨[], 0, 1⟩ none, {}) outage
      ∃ m, s.1.cache.metrics = .ok m ∧
        Reconciles (fun event => (s.1.counters.count event).toNat) m.count
          (fun event => (s.2.metrics.count event).toNat) journal) ∧
      (Request.delete "1x").key? = none ∧ ∀ now (s : State Connection Store),
        (handle Store.backend.undisturbed now (.delete "1x") s).2 = s := by
  have built : Cache.build 2 .coarse =
      .ok (.coarse ⟨.create 2⟩ : Cache Int64 String) := rfl
  have created : Pool.create 1 = .ok (⟨[], 0, 1⟩ : Pool Connection) := rfl
  have switches : ∀ a ∈ outage, Store.Switches a.before := by
    intro a member s
    simp only [outage, List.mem_cons, List.not_mem_nil, or_false] at member
    rcases member with rfl | rfl | rfl | rfl | rfl | rfl | rfl
    · exact ⟨true, s.failing, rfl⟩
    · exact ⟨false, s.failing, rfl⟩
    · exact ⟨s.refusing, s.failing, rfl⟩
    · exact ⟨s.refusing, true, rfl⟩
    · exact ⟨s.refusing, s.failing, rfl⟩
    · exact ⟨s.refusing, false, rfl⟩
    · exact ⟨s.refusing, s.failing, rfl⟩
  have few : keyed outage < Word.bound :=
    Nat.lt_of_le_of_lt List.countP_le_length (by decide)
  have unread : (Request.delete "1x").key? = none := by decide
  obtain ⟨⟨books, _⟩, unmoved⟩ :=
    counters_reconcile built (by decide) created none (show ({} : Store).metrics = {} from rfl)
      outage switches few
  exact ⟨built, by decide, created, rfl, switches, few, books, unread,
    fun now s => unmoved now _ s unread⟩

end Service

end CacheAside
