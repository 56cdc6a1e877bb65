import CacheAside.Proofs.Cache.Reachable
import CacheAside.Proofs.Service.Caching
import CacheAside.Proofs.Service.Course
import CacheAside.Proofs.Service.Table
import CacheAside.Proofs.Shard.Serving

namespace CacheAside

def Outcome.failed {ε α : Type} : Outcome ε α → Bool
  | .error _ | .fault _ => true
  | .ok _ | .blocked => false

def Outcome.errors {ε α : Type} : Outcome ε α → Nat
  | .error _ => 1
  | _ => 0

/-- Opening a connection leaves the table as it was, and so does a call that gives no answer. -/
structure Backend.Spares {C W : Type} (b : Backend C W) (table : W → Table) : Prop where
  connect : ∀ w, table (b.connect w).2 = table w
  get : ∀ c key w, (b.get c key w).1.failed = true → table (b.get c key w).2 = table w
  upsert : ∀ c key value w, (b.upsert c key value w).1.failed = true →
    table (b.upsert c key value w).2 = table w
  delete : ∀ c key w, (b.delete c key w).1.failed = true → table (b.delete c key w).2 = table w

theorem Ends.spares {ε α σ β : Type} {post : α → σ → Prop} {table : σ → β} {before : β}
    {x : Outcome ε α × σ} (ends : Ends post (fun s => table s = before) x)
    (failed : x.1.failed = true) : table x.2 = before := by
  obtain ⟨outcome, s⟩ := x
  cases outcome with
  | ok _ | blocked => cases failed
  | error _ | fault _ => exact ends

theorem Backend.Keeps.spares {C W : Type} {b : Backend C W} {table : W → Table}
    (keeps : b.Keeps table) : b.Spares table where
  connect := by
    intro w
    have connects := keeps.connect w
    cases connected : b.connect w with | mk outcome w' =>
    rw [connected] at connects
    cases outcome with
    | ok _ | error _ | fault _ => exact connects
    | blocked => exact connects.elim
  get := fun c key w => (keeps.get c key w).spares
  upsert := fun c key value w => (keeps.upsert c key value w).spares
  delete := fun c key w => (keeps.delete c key w).spares

theorem Lru.get_missed {K V : Type} [BEq K] {l : Lru K V} {key : K}
    (missed : (l.get key).1 = none) : (l.get key).2 = l := by
  unfold Lru.get at missed ⊢
  split
  · rename_i found
    rw [found] at missed
    cases missed
  · rfl

theorem Shard.Intact.get_missed {K V : Type} [BEq K] [Hashable K] [EquivBEq K] {s : Shard K V}
    (intact : s.Intact) (key : K) :
    Yields (s.events.Full CacheEvent.all) (fun (value, s') => value = none → s'.toList = s.toList)
      (s.get key) := by
  obtain ⟨l, m⟩ := intact
  refine (m.get key).mono (fun full => full.mono (CacheEvent.subset_all _)) ?_
  rintro ⟨value, s'⟩ ⟨same, reached⟩ missed
  rw [reached.models.toList, m.toList, Lru.get_missed (same.symm.trans missed)]

namespace Cache

variable {K V : Type} [BEq K] [Hashable K]

def contents (c : Cache K V) : List (Lru K V) := c.shards.map Shard.toList

variable [ByteStream K] [LawfulBEq K] {c c' : Cache K V} {key : K}

theorem WellFormed.get_missed (wf : c.WellFormed) (got : c.get key = .ok (none, c')) :
    c'.contents = c.contents ∧ c'.index = c.index := by
  rw [get_eq_onShard] at got
  obtain ⟨s, _, home, s', kept, became⟩ :=
    (wf.onShard key fun s intact => intact.get_missed key).of_ok got
  exact ⟨became.map_shards home (kept rfl), funext became.index⟩

end Cache

namespace Service

variable {C W α β : Type}

/-- What befell a request that failed, with its outcome, and the pool and the world after it: it got
    no connection, or its query failed on the connection it got, which is behind the idle ones
    then. -/
inductive Failed (b : Backend C W) (now : Instant) (timeout : Option Span)
    (query : C → W → Outcome StoreError α × W) (pool : Pool C) (w : W) :
    Outcome ServiceError β → Pool C → W → Prop
  | refused {e : ServiceError} {w' : W} (unlent : Unlent b now timeout pool w (.error e) w') :
    Failed b now timeout query pool w (.error e) pool w'
  | unwound {fault : Fault} {w' : W} (unlent : Unlent b now timeout pool w (.fault fault) w') :
    Failed b now timeout query pool w (.fault fault) pool w'
  | error {c : C} {p : Pool C} {w₁ w' : W} {e : StoreError} (lent : Lent b pool w c p w₁)
    (called : query c w₁ = (.error e, w')) :
    Failed b now timeout query pool w (.error (.store e)) (p.release c) w'
  | fault {c : C} {p : Pool C} {w₁ w' : W} {fault : Fault} (lent : Lent b pool w c p w₁)
    (called : query c w₁ = (.fault fault, w')) :
    Failed b now timeout query pool w (.fault fault) (p.release c) w'

/-- A failed request leaves no trace but in the pool, where connections may have moved, and in the
    counters of lookups, queries and errors. -/
structure FailsAtomically (b : Backend C W) (table : W → Table) (now : Instant)
    (query : C → W → Outcome StoreError α × W) (s : State C W)
    (result : Outcome ServiceError β × State C W) : Prop where
  contents : result.2.1.cache.contents = s.1.cache.contents
  index : result.2.1.cache.index = s.1.cache.index
  rows : table result.2.2 = table s.2
  inUse : result.2.1.pool.stats.inUse = s.1.pool.stats.inUse
  failed : Failed b now s.1.acquireTimeout query s.1.pool s.2 result.1 result.2.1.pool result.2.2
  errors : result.2.1.counters.errors.toNat = s.1.counters.errors.toNat + result.1.errors
  writes : result.2.1.counters.writes = s.1.counters.writes
  deletes : result.2.1.counters.deletes = s.1.counters.deletes
  cacheHits : result.2.1.counters.cacheHits = s.1.counters.cacheHits

variable {b : Backend C W} {table : W → Table} {now : Instant} {timeout : Option Span}
  {query : C → W → Outcome StoreError α × W} {pool p : Pool C} {w w' : W}

theorem Lent.inUse {c : C} (lent : Lent b pool w c p w') :
    (p.release c).stats.inUse = pool.stats.inUse := by
  cases lent with
  | idle longest =>
    simp [PoolStats.inUse, Pool.stats, Pool.release, longest]
  | opened nobody room connected =>
    simp only [PoolStats.inUse, Pool.stats, Pool.release, nobody, List.nil_append,
      List.length_singleton, List.length_nil]
    rw [Word.sub_of_le (Nat.succ_pos _), Word.sub_of_le (Nat.zero_le _)]
    rfl

theorem Failed.inUse {outcome : Outcome ServiceError β}
    (failed : Failed b now timeout query pool w outcome p w') :
    p.stats.inUse = pool.stats.inUse := by
  cases failed with
  | refused _ | unwound _ => rfl
  | error lent _ | fault lent _ => exact lent.inUse

theorem Lent.rows {c : C} (lent : Lent b pool w c p w') (spares : b.Spares table) :
    table w' = table w := by
  cases lent with
  | idle longest => rfl
  | opened nobody room connected =>
    have rows := spares.connect w
    rwa [connected] at rows

theorem Unlent.rows {outcome : Outcome ServiceError Empty}
    (unlent : Unlent b now timeout pool w outcome w') (spares : b.Spares table) :
    table w' = table w := by
  cases unlent with
  | exhausted _ _ | deadline _ _ => rfl
  | refused _ connected | broken _ connected =>
    have rows := spares.connect w
    rwa [connected] at rows

theorem Failed.rows {outcome : Outcome ServiceError β}
    (failed : Failed b now timeout query pool w outcome p w') (spares : b.Spares table)
    (queries : ∀ c w, (query c w).1.failed = true → table (query c w).2 = table w) :
    table w' = table w := by
  cases failed with
  | refused unlent | unwound unlent => exact unlent.rows spares
  | @error c p w₁ w' e lent called | @fault c p w₁ w' fault lent called =>
    have kept := queries c w₁ (by rw [called]; rfl)
    rw [called] at kept
    exact kept.trans (lent.rows spares)

theorem Failed.map {γ : Type} {outcome : Outcome ServiceError β} (f : β → γ)
    (failed : Failed b now timeout query pool w outcome p w') :
    Failed b now timeout query pool w (outcome.map f) p w' := by
  cases failed with
  | refused unlent => exact .refused unlent
  | unwound unlent => exact .unwound unlent
  | error lent called => exact .error lent called
  | fault lent called => exact .fault lent called

structure Quiet (s s' : Service C) : Prop where
  cache : s'.cache = s.cache
  writes : s'.counters.writes = s.counters.writes
  deletes : s'.counters.deletes = s.counters.deletes
  cacheHits : s'.counters.cacheHits = s.counters.cacheHits

variable {s s' : State C W} {outcome : Outcome ServiceError β}

theorem FailsAtomically.of_quiet (spares : b.Spares table)
    (queries : ∀ c w, (query c w).1.failed = true → table (query c w).2 = table w)
    (quiet : s.1.Quiet s'.1)
    (errors : s'.1.counters.errors.toNat = s.1.counters.errors.toNat + outcome.errors)
    (failed : Failed b now s.1.acquireTimeout query s.1.pool s.2 outcome s'.1.pool s'.2) :
    FailsAtomically b table now query s (outcome, s') where
  contents := congrArg Cache.contents quiet.cache
  index := congrArg Cache.index quiet.cache
  rows := failed.rows spares queries
  inUse := failed.inUse
  failed := failed
  errors := errors
  writes := quiet.writes
  deletes := quiet.deletes
  cacheHits := quiet.cacheHits

theorem toNat_succ {n : UInt64} (room : n.toNat + 1 < Word.bound) :
    (n + 1).toNat = n.toNat + 1 := by
  rw [UInt64.toNat_add]
  exact Nat.mod_eq_of_lt room

theorem Connects.atomically {note : Option ServiceEvent} {outcome : Outcome ServiceError α}
    (course : Connects b now note query s outcome s') (spares : b.Spares table)
    (queries : ∀ c w, (query c w).1.failed = true → table (query c w).2 = table w)
    (notes : note = none ∨ note = some .storeRead)
    (room : s.1.counters.errors.toNat + 1 < Word.bound) (failed : outcome.failed = true) :
    FailsAtomically b table now query s (outcome, s') := by
  cases course with
  | answered _ _ | waiting _ | calling _ _ => cases failed
  | failed lent called =>
    rcases notes with rfl | rfl <;>
      exact .of_quiet spares queries ⟨rfl, rfl, rfl, rfl⟩ (toNat_succ room) (.error lent called)
  | broken lent called =>
    rcases notes with rfl | rfl <;>
      exact .of_quiet spares queries ⟨rfl, rfl, rfl, rfl⟩ rfl (.fault lent called)
  | refused unlent =>
    exact .of_quiet spares queries ⟨rfl, rfl, rfl, rfl⟩ (toNat_succ room) (.refused unlent)
  | unwound unlent =>
    exact .of_quiet spares queries ⟨rfl, rfl, rfl, rfl⟩ rfl (.unwound unlent)

/-- A lookup that finds nothing leaves a service to which a failure is the same. -/
theorem FailsAtomically.of_missed {cache : Cache Int64 String} {key : Int64}
    {result : Outcome ServiceError β × State C W} (wf : s.1.cache.WellFormed)
    (got : s.1.cache.get key = .ok (none, cache))
    (fails : FailsAtomically b table now query ({ s.1.record .get with cache }, s.2) result) :
    FailsAtomically b table now query s result := by
  obtain ⟨contents, index⟩ := wf.get_missed got
  exact { fails with contents := fails.contents.trans contents, index := fails.index.trans index }

theorem FailsAtomically.map {γ : Type} (f : β → γ)
    (fails : FailsAtomically b table now query s (outcome, s')) :
    FailsAtomically b table now query s (outcome.map f, s') :=
  { fails with
    failed := fails.failed.map f
    errors := by
      rw [fails.errors]
      cases outcome <;> rfl }

theorem Changes.atomically {key : Int64} {event : ServiceEvent} {outcome : Outcome ServiceError α}
    (course : Changes b now key event query s outcome s') (spares : b.Spares table)
    (queries : ∀ c w, (query c w).1.failed = true → table (query c w).2 = table w)
    (room : s.1.counters.errors.toNat + 1 < Word.bound) (failed : outcome.failed = true) :
    FailsAtomically b table now query s (outcome, s') := by
  cases course with
  | changed _ _ => cases failed
  | unanswered course _ => exact course.atomically spares queries (.inl rfl) room failed

theorem Reads.atomically {key : Int64} {outcome : Outcome ServiceError (Option String)}
    (course : Reads b now key s outcome s') (spares : b.Spares table)
    (wf : s.1.cache.WellFormed) (room : s.1.counters.errors.toNat + 1 < Word.bound)
    (failed : outcome.failed = true) :
    FailsAtomically b table now (fun c => b.get c key) s (outcome, s') := by
  cases course with
  | hit _ | absent _ _ | filled _ _ _ => cases failed
  | unanswered got fetched _ =>
    exact .of_missed wf got
      (fetched.atomically spares (spares.get · key) (.inr rfl) room failed)

/-- A request that fails is as if it had not been made, but for the connection it may have used and
    for what counts its attempts, whichever of its steps it was that failed. -/
theorem failed_request_atomic (spares : b.Spares table) (reached : s.1.cache.Reachable)
    (room : ¬ s.1.cache.Full CacheEvent.all)
    (countable : s.1.counters.errors.toNat + 1 < Word.bound) :
    (∀ key, (read b.undisturbed now key s).1.failed = true →
      FailsAtomically b table now (fun c => b.get c key) s (read b.undisturbed now key s)) ∧
    (∀ key value, (write b.undisturbed now key value s).1.failed = true →
      FailsAtomically b table now (fun c => b.upsert c key value) s
        (write b.undisturbed now key value s)) ∧
    ∀ key, (delete b.undisturbed now key s).1.failed = true →
      FailsAtomically b table now (fun c => b.delete c key) s
        (delete b.undisturbed now key s) := by
  have wf := reached.wellFormed
  refine ⟨?_, ?_, ?_⟩
  · intro key failed
    exact (read_course wf room key).atomically spares wf countable failed
  · intro key value failed
    cases written : write b.undisturbed now key value s with | mk outcome s' =>
    rw [written] at failed
    exact (change_course wf room written).atomically spares (spares.upsert · key value) countable
      failed
  · intro key failed
    unfold delete at failed ⊢
    cases deleted : thenInvalidate key .delete (withConnection b.undisturbed now
      (fun c s => b.undisturbed.delete c key s) s) with
    | mk outcome s' =>
    rw [deleted] at failed
    have failed : outcome.failed = true := by cases outcome <;> exact failed
    exact ((change_course wf room deleted).atomically spares (spares.delete · key) countable
      failed).map _

/-- A write loses contact with the store on a pooled connection, a read cannot open one, and a
    deletion waits for one in vain. -/
theorem outage_atomic : ∃ cache : Cache Int64 String, Store.backend.Spares Store.peek ∧
    cache.Reachable ∧ ¬ cache.Full CacheEvent.all ∧
    (let s := (create cache ⟨[⟨7⟩, ⟨8⟩], 3, 4⟩ none, (Store.ofRows [(1, "a")]).fail true);
      s.1.counters.errors.toNat + 1 < Word.bound ∧
      (write Store.backend.undisturbed ⟨0, 0⟩ 1 "b" s).1.failed = true ∧
      FailsAtomically Store.backend Store.peek ⟨0, 0⟩ (fun c => Store.backend.upsert c 1 "b") s
        (write Store.backend.undisturbed ⟨0, 0⟩ 1 "b" s)) ∧
    (let s := (create cache ⟨[], 1, 2⟩ none, (Store.ofRows [(2, "b")]).refuse true);
      (read Store.backend.undisturbed ⟨0, 0⟩ 2 s).1.failed = true ∧
      FailsAtomically Store.backend Store.peek ⟨0, 0⟩ (fun c => Store.backend.get c 2) s
        (read Store.backend.undisturbed ⟨0, 0⟩ 2 s)) ∧
    let s := (create cache ⟨[], 1, 1⟩ (some (.ofMillis 5)), Store.ofRows [(1, "a")]);
    (delete Store.backend.undisturbed ⟨0, 0⟩ 1 s).1.failed = true ∧
    FailsAtomically Store.backend Store.peek ⟨0, 0⟩ (fun c => Store.backend.delete c 1) s
      (delete Store.backend.undisturbed ⟨0, 0⟩ 1 s) := by
  have built : Cache.build 2 .coarse = .ok (.coarse ⟨.create 2⟩ : Cache Int64 String) := rfl
  obtain ⟨wf, empty, within⟩ := Cache.build_wellFormed built
  obtain ⟨cache, put, leaves, shown⟩ :=
    (wf.put 1 "a").returns (within.not_full fun _ _ => by decide)
  have stepped : (Cache.coarse ⟨.create 2⟩ : Cache Int64 String).step (.put 1 "a") =
      .ok (.done, cache) := by
    rw [Cache.step, put]
    rfl
  have reached : cache.Reachable := .step (.built built) stepped
  have room : ¬ cache.Full CacheEvent.all := (leaves.counted _ within).not_full (by decide)
  have absent : cache.view 2 = none := by
    rw [Option.eq_none_iff_forall_ne_some]
    intro value found
    rcases shown 2 value found with ⟨same, _⟩ | before
    · exact absurd same (by decide)
    · rw [empty] at before
      cases before
  obtain ⟨⟨found, missed⟩, got, rfl, _⟩ :=
    (leaves.wellFormed.get 2).returns fun full => room (full.mono (CacheEvent.subset_all _))
  rw [absent] at got
  have countable : ({} : ServiceCounters).errors.toNat + 1 < Word.bound := by decide
  have spares := Store.backend_keeps.spares
  have refused : (read Store.backend.undisturbed ⟨0, 0⟩ 2
      (create cache ⟨[], 1, 2⟩ none, (Store.ofRows [(2, "b")]).refuse true)).1.failed = true := by
    simp only [read, lookup, record, create, got]
    rfl
  refine ⟨cache, spares, reached, room, ⟨countable, rfl, ?_⟩, ⟨refused, ?_⟩, rfl, ?_⟩
  · exact (failed_request_atomic spares reached room countable).2.1 1 "b" rfl
  · exact (failed_request_atomic spares reached room countable).1 2 refused
  · exact (failed_request_atomic spares reached room countable).2.2 1 rfl

end Service

end CacheAside
