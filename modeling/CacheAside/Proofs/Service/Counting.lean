import CacheAside.Proofs.Cache.Counters
import CacheAside.Proofs.Metrics.Wrapping
import CacheAside.Proofs.Service.Connection
import CacheAside.Proofs.Service.Course

namespace CacheAside

def ServiceError.acquiring : ServiceError → Bool
  | .connection _ | .timeout _ => true
  | .invalidKey _ | .store _ => false

namespace Store

variable {α : Type} {event : α → StoreEvent}

def Counts (query : Connection → Store → Outcome StoreError α × Store) (event : α → StoreEvent) :
    Prop :=
  ∀ c s, match query c s with
    | (.ok a, s') => s'.metrics = s.metrics.record (event a)
    | (.error _, s') => s'.metrics = s.metrics.record .failure
    | (.fault _, _) | (.blocked, _) => False

theorem serve_counts {operation : Store → α × Store}
    (counts : ∀ s, (operation s).2.metrics = s.metrics.record (event (operation s).1)) :
    Counts (fun c => Outcome.lift fun s => s.serve c operation) event := by
  intro c s
  simp only [Outcome.lift, serve]
  cases s.failing with
  | true => exact rfl
  | false => exact counts s

def fetchEvent : Option String → StoreEvent
  | some _ => .hit
  | none => .miss

def upsertEvent : Upserted → StoreEvent
  | .inserted => .insert
  | .replaced => .update

theorem get_counts (key : Int64) : Counts (Store.backend.get · key) fetchEvent := by
  refine serve_counts fun s => ?_
  cases s.table[key]? <;> rfl

theorem upsert_counts (key : Int64) (value : String) :
    Counts (Store.backend.upsert · key value) upsertEvent := by
  refine serve_counts fun s => ?_
  cases s.table.contains key <;> rfl

theorem delete_counts (key : Int64) : Counts (Store.backend.delete · key) fun _ => .delete := by
  intro c s
  simp only [backend, Outcome.lift, Store.delete, serve]
  cases s.failing <;> exact rfl

variable {s s' : Store} {outcome : Outcome ConnectionError Connection}

theorem connect_metrics (connected : Store.backend.connect s = (outcome, s')) :
    s'.metrics = s.metrics ∧ ((∃ c, outcome = .ok c) ∨ ∃ e, outcome = .error e) := by
  simp only [backend, Outcome.lift, connect] at connected
  split at connected
  · cases connected
    exact ⟨rfl, .inr ⟨_, rfl⟩⟩
  · cases connected
    exact ⟨rfl, .inl ⟨_, rfl⟩⟩

end Store

namespace Service

open Store (Connection)

variable {α : Type} {now : Instant} {timeout : Option Span} {pool p : Pool Connection}
  {w w' : Store} {c : Connection}

theorem Lent.metrics (lent : Lent Store.backend pool w c p w') : w'.metrics = w.metrics := by
  cases lent with
  | idle longest => rfl
  | opened nobody room connected => exact (Store.connect_metrics connected).1

theorem Unlent.metrics {outcome : Outcome ServiceError Empty}
    (unlent : Unlent Store.backend now timeout pool w outcome w') : w'.metrics = w.metrics := by
  cases unlent with
  | exhausted _ _ | deadline _ _ => rfl
  | refused _ connected | broken _ connected => exact (Store.connect_metrics connected).1

structure Trace where
  service : List ServiceEvent
  cache : List CacheEvent
  store : List StoreEvent

def Trace.append (first second : Trace) : Trace :=
  ⟨first.service ++ second.service, first.cache ++ second.cache, first.store ++ second.store⟩

variable {s s' s'' : State Connection Store} {trace first second : Trace}

structure Counted (s : State Connection Store) (trace : Trace) (s' : State Connection Store) :
    Prop where
  service : s'.1.counters = trace.service.foldl ServiceCounters.record s.1.counters
  cache : s.1.cache.Counts trace.cache s'.1.cache
  store : s'.2.metrics = trace.store.foldl StoreMetrics.record s.2.metrics

theorem Counted.uncached {service : List ServiceEvent} {store : List StoreEvent}
    (cache : s'.1.cache = s.1.cache)
    (counters : s'.1.counters = service.foldl ServiceCounters.record s.1.counters)
    (metrics : s'.2.metrics = store.foldl StoreMetrics.record s.2.metrics) :
    Counted s ⟨service, [], store⟩ s' :=
  ⟨counters, ⟨fun _ => by rw [cache]; rfl, by rw [cache]⟩, metrics⟩

theorem Counted.append (counted : Counted s first s') (later : Counted s' second s'') :
    Counted s (first.append second) s'' where
  service := by rw [later.service, counted.service, Trace.append, List.foldl_append]
  cache := by
    refine ⟨fun event => ?_, later.cache.capacities.trans counted.cache.capacities⟩
    rw [later.cache.tally, counted.cache.tally, Trace.append, List.count_append, Nat.add_assoc]
  store := by rw [later.store, counted.store, Trace.append, List.foldl_append]

inductive QueryTrace (now : Instant) (timeout : Option Span) (note : Option ServiceEvent)
    (event : α → StoreEvent) : Outcome ServiceError α → Trace → Prop
  | answered (a : α) : QueryTrace now timeout note event (.ok a) ⟨note.toList, [], [event a]⟩
  | failed (e : StoreError) : QueryTrace now timeout note event (.error (.store e))
      ⟨note.toList ++ [.error], [], [.failure]⟩
  | refused {e : ServiceError} (acquiring : e.acquiring = true) :
    QueryTrace now timeout note event (.error e) ⟨[.error], [], []⟩
  | unwound {fault : Fault} {span : Span} (bounded : timeout = some span)
    (beyond : now.after span = .error fault) :
    QueryTrace now timeout note event (.fault fault) ⟨[], [], []⟩

structure Ready (timeout : Option Span) (s : Service Connection) : Prop where
  rests : s.Lends 0
  acquireTimeout : s.acquireTimeout = timeout
  wellFormed : s.cache.WellFormed

theorem Ready.released {note : Option ServiceEvent} (ready : s.1.Ready timeout)
    (lent : Lent Store.backend s.1.pool w c p w') :
    ((noting note { s.1 with pool := p }).release c).Ready timeout := by
  obtain ⟨balanced, size⟩ := lent.balanced ready.rests.1
  have lends : ({ s.1 with pool := p } : Service Connection).Lends 1 :=
    ⟨balanced, size ▸ ready.rests.2⟩
  cases note <;> exact ⟨lends.release rfl c, ready.acquireTimeout, ready.wellFormed⟩

theorem Connects.counted {note : Option ServiceEvent} {event : α → StoreEvent}
    {query : Connection → Store → Outcome StoreError α × Store} {outcome : Outcome ServiceError α}
    (course : Connects Store.backend now note query s outcome s')
    (counts : Store.Counts query event) (ready : s.1.Ready timeout) :
    s'.1.Ready timeout ∧
      ∃ trace, QueryTrace now timeout note event outcome trace ∧ Counted s trace s' := by
  cases course with
  | @answered c p w₁ w' a lent called =>
    have metrics := counts c w₁
    rw [called, lent.metrics] at metrics
    refine ⟨ready.released lent, _, .answered a, ?_⟩
    cases note <;> exact .uncached rfl rfl metrics
  | @failed c p w₁ w' e lent called =>
    have metrics := counts c w₁
    rw [called, lent.metrics] at metrics
    have ready' : ((noting note { s.1 with pool := p }).release c).Ready timeout :=
      ready.released lent
    refine ⟨⟨ready'.rests, ready'.acquireTimeout, ready'.wellFormed⟩, _, .failed e, ?_⟩
    cases note <;> exact .uncached rfl rfl metrics
  | @broken c p w₁ w' fault lent called | @calling c p w₁ w' s' lent called =>
    have never := counts c w₁
    rw [called] at never
    exact never.elim
  | @refused e w unlent =>
    have metrics := unlent.metrics
    have acquiring : e.acquiring = true := by cases unlent <;> rfl
    exact ⟨⟨ready.rests, ready.acquireTimeout, ready.wellFormed⟩, _, .refused acquiring,
      .uncached rfl rfl metrics⟩
  | unwound unlent =>
    have metrics := unlent.metrics
    cases unlent with
    | deadline bounded beyond =>
      rw [ready.acquireTimeout] at bounded
      exact ⟨ready, _, .unwound bounded beyond, .uncached rfl rfl metrics⟩
    | broken nobody connected =>
      obtain ⟨_, same⟩ | ⟨_, same⟩ := (Store.connect_metrics connected).2 <;> cases same
  | waiting waits =>
    cases waits with
    | waiting unbounded exhausted =>
      exact absurd (ready.rests.1.exhausted exhausted).2.2 (Nat.ne_of_lt ready.rests.2)
    | opening connected =>
      obtain ⟨_, same⟩ | ⟨_, same⟩ := (Store.connect_metrics connected).2 <;> cases same

inductive ReadTrace (now : Instant) (timeout : Option Span) :
    Outcome ServiceError (Option String) → Trace → Prop
  | hit (value : String) :
    ReadTrace now timeout (.ok (some value)) ⟨[.get, .cacheHit], [.getHit], []⟩
  | absent : ReadTrace now timeout (.ok none) ⟨[.get, .storeRead], [.getMiss], [.miss]⟩
  | filled (value : String) :
    ReadTrace now timeout (.ok (some value)) ⟨[.get, .storeRead], [.getMiss, .insertNew], [.hit]⟩
  | displacing (value : String) : ReadTrace now timeout (.ok (some value))
      ⟨[.get, .storeRead], [.getMiss, .eviction, .insertNew], [.hit]⟩
  | failed (e : StoreError) : ReadTrace now timeout (.error (.store e))
      ⟨[.get, .storeRead, .error], [.getMiss], [.failure]⟩
  | refused {e : ServiceError} (acquiring : e.acquiring = true) :
    ReadTrace now timeout (.error e) ⟨[.get, .error], [.getMiss], []⟩
  | unwound {fault : Fault} {span : Span} (bounded : timeout = some span)
    (beyond : now.after span = .error fault) :
    ReadTrace now timeout (.fault fault) ⟨[.get], [.getMiss], []⟩

inductive ChangeTrace (now : Instant) (timeout : Option Span) (event : ServiceEvent)
    (stored : α → StoreEvent) : Outcome ServiceError α → Trace → Prop
  | changed (a : α) (dropped : Bool) : ChangeTrace now timeout event stored (.ok a)
      ⟨[event], if dropped then [.removal] else [], [stored a]⟩
  | failed (e : StoreError) : ChangeTrace now timeout event stored (.error (.store e))
      ⟨[.error], [], [.failure]⟩
  | refused {e : ServiceError} (acquiring : e.acquiring = true) :
    ChangeTrace now timeout event stored (.error e) ⟨[.error], [], []⟩
  | unwound {fault : Fault} {span : Span} (bounded : timeout = some span)
    (beyond : now.after span = .error fault) :
    ChangeTrace now timeout event stored (.fault fault) ⟨[], [], []⟩

variable {key : Int64} {cache : Cache Int64 String} {filled dropped : Service Connection}

/-- A lookup that finds nothing is counted by the service and by its cache. -/
theorem missed_counted (ready : s.1.Ready timeout) (got : s.1.cache.get key = .ok (none, cache)) :
    ({ s.1.record .get with cache } : Service Connection).Ready timeout ∧
      cache.view key = none ∧
        Counted s ⟨[.get], [.getMiss], []⟩ ({ s.1.record .get with cache }, s.2) := by
  obtain ⟨found, leaves, kept⟩ := (ready.wellFormed.get key).of_ok got
  exact ⟨⟨ready.rests, ready.acquireTimeout, leaves.wellFormed⟩, (kept key).trans found.symm,
    rfl, ready.wellFormed.get_counts got, rfl⟩

theorem filled_counted {value : String} (ready : s.1.Ready timeout)
    (roomy : ∀ shard ∈ s.1.cache.shards, 0 < shard.capacity)
    (absent : s.1.cache.view key = none) (fills : s.1.fill key value = .ok filled) :
    filled.Ready timeout ∧ (Counted s ⟨[], [.insertNew], []⟩ (filled, s.2) ∨
      Counted s ⟨[], [.eviction, .insertNew], []⟩ (filled, s.2)) := by
  obtain ⟨recached, _⟩ := (fill_yields ready.wellFormed key value).of_ok fills
  obtain ⟨cache, put, same⟩ := eq_ok_of_bind fills
  cases same
  refine ⟨⟨ready.rests, ready.acquireTimeout, recached.leaves.wellFormed⟩, ?_⟩
  exact (ready.wellFormed.put_counts roomy absent put).imp (⟨rfl, ·, rfl⟩) (⟨rfl, ·, rfl⟩)

theorem dropped_counted {event : ServiceEvent} (ready : s.1.Ready timeout)
    (drops : s.1.invalidate key event = .ok dropped) :
    dropped.Ready timeout ∧ ∃ found : Bool,
      Counted s ⟨[event], if found then [.removal] else [], []⟩ (dropped, s.2) := by
  obtain ⟨recached, _⟩ := (invalidate_yields ready.wellFormed key event).of_ok drops
  obtain ⟨⟨found, cache⟩, removed, same⟩ := eq_ok_of_bind drops
  cases same
  exact ⟨⟨ready.rests, ready.acquireTimeout, recached.leaves.wellFormed⟩, found, rfl,
    ready.wellFormed.remove_counts removed, rfl⟩

theorem Reads.counted {outcome : Outcome ServiceError (Option String)}
    (course : Reads Store.backend now key s outcome s') (ready : s.1.Ready timeout)
    (roomy : ∀ shard ∈ s.1.cache.shards, 0 < shard.capacity) :
    s'.1.Ready timeout ∧ ∃ trace, ReadTrace now timeout outcome trace ∧ Counted s trace s' := by
  cases course with
  | @hit value cache got =>
    obtain ⟨_, leaves, _⟩ := (ready.wellFormed.get key).of_ok got
    exact ⟨⟨ready.rests, ready.acquireTimeout, leaves.wellFormed⟩, _, .hit value,
      rfl, ready.wellFormed.get_counts got, rfl⟩
  | absent got fetched =>
    obtain ⟨ready, _, missed⟩ := missed_counted ready got
    obtain ⟨ready, _, queried, counted⟩ := fetched.counted (Store.get_counts key) ready
    cases queried
    exact ⟨ready, _, .absent, missed.append counted⟩
  | @filled cache value s₁ filled got fetched fills =>
    obtain ⟨ready, absent, missed⟩ := missed_counted ready got
    have kept := fetched.cache nofun
    obtain ⟨ready, _, queried, counted⟩ := fetched.counted (Store.get_counts key) ready
    cases queried
    have fetched := missed.append counted
    rw [← show s₁.1.cache = cache from kept] at absent
    obtain ⟨ready, arrived | arrived⟩ :=
      filled_counted ready (fetched.cache.roomy roomy) absent fills
    · exact ⟨ready, _, .filled value, fetched.append arrived⟩
    · exact ⟨ready, _, .displacing value, fetched.append arrived⟩
  | unanswered got fetched unanswered =>
    obtain ⟨ready, _, missed⟩ := missed_counted ready got
    obtain ⟨ready, _, queried, counted⟩ := fetched.counted (Store.get_counts key) ready
    cases queried with
    | answered a => exact absurd rfl (unanswered a)
    | failed e => exact ⟨ready, _, .failed e, missed.append counted⟩
    | refused acquiring => exact ⟨ready, _, .refused acquiring, missed.append counted⟩
    | unwound bounded beyond =>
      exact ⟨ready, _, .unwound bounded beyond, missed.append counted⟩

theorem Changes.counted {event : ServiceEvent} {stored : α → StoreEvent}
    {query : Connection → Store → Outcome StoreError α × Store} {outcome : Outcome ServiceError α}
    (course : Changes Store.backend now key event query s outcome s')
    (counts : Store.Counts query stored) (ready : s.1.Ready timeout) :
    s'.1.Ready timeout ∧
      ∃ trace, ChangeTrace now timeout event stored outcome trace ∧ Counted s trace s' := by
  cases course with
  | @changed a s₁ dropped answered drops =>
    obtain ⟨ready, _, queried, counted⟩ := answered.counted counts ready
    cases queried
    obtain ⟨ready, found, invalidated⟩ := dropped_counted ready drops
    exact ⟨ready, _, .changed a found, counted.append invalidated⟩
  | unanswered course unanswered =>
    obtain ⟨ready, _, queried, counted⟩ := course.counted counts ready
    cases queried with
    | answered a => exact absurd rfl (unanswered a)
    | failed e => exact ⟨ready, _, .failed e, counted⟩
    | refused acquiring => exact ⟨ready, _, .refused acquiring, counted⟩
    | unwound bounded beyond => exact ⟨ready, _, .unwound bounded beyond, counted⟩

end Service

end CacheAside
