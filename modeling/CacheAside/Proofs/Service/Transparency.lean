import CacheAside.Proofs.Key.Grammar
import CacheAside.Proofs.Service.Caching
import CacheAside.Proofs.Service.Connection

namespace CacheAside

namespace Table

def respond (t : Table) (rawKey : String) (answer : Int64 → Response × Table) :
    Option Response × Table :=
  match Key.parse rawKey with
  | .error _ => (some ⟨.badRequest, "Invalid key format. Key must be an integer."⟩, t)
  | .ok key => (some (answer key).1, (answer key).2)

/-- What a request gets from a table alone, with no cache and no pool in front of it, and the table
    after it. A table has nothing to say about counters. -/
def handle (t : Table) : Request → Option Response × Table
  | .get rawKey => t.respond rawKey fun key =>
    (match t key with
      | some value => ⟨.ok, value⟩
      | none => ⟨.notFound, "Key not found"⟩, t)
  | .put rawKey body => t.respond rawKey fun key =>
    (if (t key).isSome then ⟨.ok, "Updated"⟩ else ⟨.created, "Created"⟩,
      Function.update t key (some (body.getD "")))
  | .delete rawKey => t.respond rawKey fun key =>
    (⟨.ok, "Deleted"⟩, Function.update t key none)
  | .stats => (none, t)

end Table

namespace Service

variable {C W : Type}

/-- How a service stands between two requests: its connections are in the pool, no shard of its
    cache has counted an event more than `n` times, and the cache shows what the table holds or
    nothing. -/
structure Coherent (table : W → Table) (timeout : Option Span) (n : Nat) (s : State C W) :
    Prop where
  rests : s.1.Lends 0
  acquireTimeout : s.1.acquireTimeout = timeout
  wellFormed : s.1.cache.WellFormed
  within : s.1.cache.Within fun _ => n
  submap : ∀ key value, s.1.cache.view key = some value → table s.2 key = some value

variable {b : Backend C W} {table : W → Table} {now : Instant} {timeout : Option Span} {n : Nat}
  {s : State C W}

theorem count_le_one (event : CacheEvent) :
    CacheEvent.lookups.count event + CacheEvent.arrivals.count event ≤ 1 ∧
      CacheEvent.departures.count event ≤ 1 := by
  cases event <;> decide

theorem Coherent.mono (coherent : Coherent table timeout n s) :
    Coherent table timeout (n + 1) s :=
  { coherent with within := coherent.within.mono fun _ => Nat.le_succ n }

theorem Coherent.kept (coherent : Coherent table timeout n s) {s' : State C W}
    {kinds : List CacheEvent} {recached : Service C} (recaches : s.1.Recached kinds recached)
    (once : ∀ event, kinds.count event ≤ 1)
    (shown : ∀ key, recached.cache.view key = s.1.cache.view key) (rests : s'.1.Lends 0)
    (beside : recached.Beside s'.1) (same : table s'.2 = table s.2) :
    Coherent table timeout (n + 1) s' where
  rests := rests
  acquireTimeout :=
    (beside.acquireTimeout.trans recaches.acquireTimeout).trans coherent.acquireTimeout
  wellFormed := beside.cache ▸ recaches.leaves.wellFormed
  within := by
    rw [beside.cache]
    exact (recaches.leaves.counted _ coherent.within).mono fun e => Nat.add_le_add_left (once e) n
  submap := by
    intro key value found
    rw [beside.cache, shown] at found
    rw [same]
    exact coherent.submap key value found

theorem Coherent.fill {service : Service C} {key : Int64} {value : String}
    (coherent : Coherent table timeout n s) (recaches : s.1.Recached CacheEvent.lookups service)
    (shown : ∀ key, service.cache.view key = s.1.cache.view key) {s' : State C W}
    (rests : s'.1.Lends 0) (beside : service.Beside s'.1) (same : table s'.2 = table s.2)
    (held : table s.2 key = some value) (room : n + 1 < Word.bound) :
    ∃ filled, s'.1.fill key value = .ok filled ∧ Coherent table timeout (n + 1) (filled, s'.2) := by
  have wf : s'.1.cache.WellFormed := beside.cache ▸ recaches.leaves.wellFormed
  have within : s'.1.cache.Within fun e => n + CacheEvent.lookups.count e :=
    beside.cache ▸ recaches.leaves.counted _ coherent.within
  have room' : ∀ event ∈ CacheEvent.arrivals,
      n + CacheEvent.lookups.count event + 1 < Word.bound := by
    intro event member
    have first : CacheEvent.lookups.count event = 0 := by
      have := List.count_pos_iff.mpr member
      have := (count_le_one event).1
      omega
    omega
  obtain ⟨filled, fills, again, after⟩ :=
    (fill_yields wf key value).returns (within.not_full room')
  refine ⟨filled, fills, ?_, ?_, again.leaves.wellFormed, ?_, ?_⟩
  · rwa [Lends, again.pool]
  · rw [again.acquireTimeout, beside.acquireTimeout, recaches.acquireTimeout]
    exact coherent.acquireTimeout
  · apply (again.leaves.counted _ within).mono
    intro event
    have := (count_le_one event).1
    omega
  · intro key' value' found
    rw [same]
    rcases after key' value' found with ⟨rfl, rfl⟩ | before
    · exact held
    · rw [beside.cache, shown] at before
      exact coherent.submap key' value' before

theorem read_ends (keeps : b.Keeps table) (coherent : Coherent table timeout n s)
    (room : n + 1 < Word.bound) (key : Int64) :
    Ends
      (fun a s' => Coherent table timeout (n + 1) s' ∧ (a, table s'.2) = (table s.2).get key)
      (fun s' => Coherent table timeout (n + 1) s' ∧ table s'.2 = table s.2 ∧
        ¬ Clear b now timeout s.2)
      (read b.undisturbed now key s) := by
  have looks := lookup_ends coherent.wellFormed key
  unfold read
  cases looked : s.1.lookup key with | mk outcome service =>
  rw [looked] at looks
  cases outcome with
  | error _ | fault _ => exact absurd looks (coherent.within.not_full fun _ _ => room)
  | blocked => exact looks
  | ok found =>
    obtain ⟨same, recached, shown⟩ := looks
    have once := fun e => Nat.le_of_add_right_le (count_le_one e).1
    have rests : service.Lends 0 := by
      have rests := coherent.rests
      rwa [Lends, ← recached.pool] at rests
    cases found with
    | some value =>
      exact ⟨coherent.kept recached once shown rests (.refl _) rfl,
        by rw [Table.get, coherent.submap key value same.symm]⟩
    | none =>
      have fetches : Ends _ _ (withConnection b.undisturbed now
          (fun c s => b.undisturbed.get c key (s.1.record .storeRead, s.2)) (service, s.2)) :=
        withConnection_ends keeps rests (·.get key) fun c s =>
          undisturbed_ends (s := (s.1.record .storeRead, s.2)) (·.get key) (keeps.get c key s.2)
            (fun reliable => reliable.get c key) s.1 rfl ⟨rfl, rfl⟩
      simp only
      cases fetched : withConnection b.undisturbed now
          (fun c s => b.undisturbed.get c key (s.1.record .storeRead, s.2)) (service, s.2) with
      | mk outcome s₂ =>
      rw [fetched] at fetches
      cases outcome with
      | ok found =>
        obtain ⟨rests, beside, answered⟩ := fetches
        obtain ⟨held, kept⟩ := Prod.mk.injEq .. ▸ answered
        cases found with
        | none => exact ⟨coherent.kept recached once shown rests beside kept, answered⟩
        | some value =>
          obtain ⟨filled, fills, after⟩ :=
            coherent.fill recached shown rests beside kept held.symm room
          simp only [fills]
          exact ⟨after, answered⟩
      | error _ | fault _ =>
        obtain ⟨rests, beside, kept, unclear⟩ := fetches
        rw [recached.acquireTimeout, coherent.acquireTimeout] at unclear
        exact ⟨coherent.kept recached once shown rests beside kept, kept, unclear⟩
      | blocked => exact fetches

theorem Coherent.invalidate {s' : State C W} {key : Int64} (coherent : Coherent table timeout n s)
    (rests : s'.1.Lends 0) (beside : s.1.Beside s'.1)
    (only : ∀ key', key' ≠ key → table s'.2 key' = table s.2 key') (room : n + 1 < Word.bound)
    (event : ServiceEvent) :
    ∃ dropped, s'.1.invalidate key event = .ok dropped ∧
      Coherent table timeout (n + 1) (dropped, s'.2) := by
  have wf : s'.1.cache.WellFormed := beside.cache ▸ coherent.wellFormed
  have within : s'.1.cache.Within fun _ => n := beside.cache ▸ coherent.within
  obtain ⟨dropped, drops, recached, shown⟩ :=
    (invalidate_yields wf key event).returns (within.not_full fun _ _ => room)
  refine ⟨dropped, drops, ?_, ?_, recached.leaves.wellFormed, ?_, ?_⟩
  · rwa [Lends, recached.pool]
  · rw [recached.acquireTimeout, beside.acquireTimeout]
    exact coherent.acquireTimeout
  · exact (recached.leaves.counted _ within).mono fun e => Nat.add_le_add_left (count_le_one e).2 n
  · intro key' value found
    rw [shown, beside.cache] at found
    split at found
    · cases found
    · rename_i other
      rw [only key' fun same => other (beq_iff_eq.mpr same.symm)]
      exact coherent.submap key' value found

theorem change_ends (keeps : b.Keeps table) (coherent : Coherent table timeout n s)
    (room : n + 1 < Word.bound) (key : Int64) (event : ServiceEvent) {α : Type}
    (act : Table → α × Table) (only : ∀ t key', key' ≠ key → (act t).2 key' = t key')
    {call : C → State C W → Outcome StoreError α × State C W}
    (calls : ∀ (c : C) (s : State C W), Ends
      (fun a s' => s'.1.pool = s.1.pool ∧ s.1.Beside s'.1 ∧ (a, table s'.2) = act (table s.2))
      (fun s' => s'.1.pool = s.1.pool ∧ s.1.Beside s'.1 ∧ table s'.2 = table s.2 ∧
        ¬ b.Reliable s.2) (call c s)) :
    Ends
      (fun a s' => Coherent table timeout (n + 1) s' ∧ (a, table s'.2) = act (table s.2))
      (fun s' => Coherent table timeout (n + 1) s' ∧ table s'.2 = table s.2 ∧
        ¬ Clear b now timeout s.2)
      (thenInvalidate key event (withConnection b.undisturbed now call s)) := by
  have changes : Ends _ _ (withConnection b.undisturbed now call s) :=
    withConnection_ends keeps coherent.rests act calls
  unfold thenInvalidate
  cases changed : withConnection b.undisturbed now call s with | mk outcome s' =>
  rw [changed] at changes
  cases outcome with
  | ok a =>
    obtain ⟨rests, beside, acted⟩ := changes
    have only : ∀ key', key' ≠ key → table s'.2 key' = table s.2 key' := by
      intro key' other
      rw [show table s'.2 = (act (table s.2)).2 from congrArg Prod.snd acted, only _ _ other]
    obtain ⟨dropped, drops, after⟩ := coherent.invalidate rests beside only room event
    simp only [drops]
    exact ⟨after, acted⟩
  | error _ | fault _ =>
    obtain ⟨rests, beside, same, unclear⟩ := changes
    rw [coherent.acquireTimeout] at unclear
    refine ⟨⟨rests, ?_, ?_, ?_, ?_⟩, same, unclear⟩
    · rw [beside.acquireTimeout, coherent.acquireTimeout]
    · exact beside.cache ▸ coherent.wellFormed
    · exact beside.cache ▸ coherent.mono.within
    · rw [beside.cache, same]
      exact coherent.submap
  | blocked => exact changes

theorem write_ends (keeps : b.Keeps table) (coherent : Coherent table timeout n s)
    (room : n + 1 < Word.bound) (key : Int64) (value : String) :
    Ends
      (fun a s' => Coherent table timeout (n + 1) s' ∧
        (a, table s'.2) = (table s.2).upsert key value)
      (fun s' => Coherent table timeout (n + 1) s' ∧ table s'.2 = table s.2 ∧
        ¬ Clear b now timeout s.2)
      (write b.undisturbed now key value s) := by
  refine change_ends keeps coherent room key .write (·.upsert key value) ?_ fun c s =>
    undisturbed_ends (·.upsert key value) (keeps.upsert c key value s.2)
      (fun reliable => reliable.upsert c key value) s.1 rfl (.refl s.1)
  intro t key' other
  exact Function.update_of_ne other _ t

theorem delete_ends (keeps : b.Keeps table) (coherent : Coherent table timeout n s)
    (room : n + 1 < Word.bound) (key : Int64) :
    Ends
      (fun _ s' => Coherent table timeout (n + 1) s' ∧ table s'.2 = ((table s.2).delete key).2)
      (fun s' => Coherent table timeout (n + 1) s' ∧ table s'.2 = table s.2 ∧
        ¬ Clear b now timeout s.2)
      (delete b.undisturbed now key s) := by
  have only : ∀ t key', key' ≠ key → (Table.delete t key).2 key' = t key' :=
    fun t key' other => Function.update_of_ne other _ t
  have deletes : Ends _ _ (thenInvalidate key .delete (withConnection b.undisturbed now
      (fun c s => b.undisturbed.delete c key s) s)) :=
    change_ends keeps coherent room key .delete (·.delete key) only fun c s =>
      undisturbed_ends (·.delete key) (keeps.delete c key s.2)
        (fun reliable => reliable.delete c key) s.1 rfl (.refl s.1)
  unfold delete
  cases deleted : thenInvalidate key .delete (withConnection b.undisturbed now
      (fun c s => b.undisturbed.delete c key s) s) with
  | mk outcome s' =>
  rw [deleted] at deletes
  cases outcome with
  | ok existed => exact ⟨deletes.1, congrArg Prod.snd deletes.2⟩
  | error _ | fault _ => exact deletes
  | blocked => exact deletes

/-- How a request turns out beside a table: it is answered as by the table itself and changes the
    table in the same way, or it fails, which it does only in need, and changes nothing. -/
inductive Answered (clear : Prop) (t : Table) (request : Request) :
    Outcome Empty Response → Table → Prop
  | plain {response : Response} {t' : Table} (handled : t.handle request = (some response, t')) :
    Answered clear t request (.ok response) t'
  | stats {response : Response} (counters : request = .stats) :
    Answered clear t request (.ok response) t
  | failed {response : Response} (internal : response.status = .internalError)
    (unclear : ¬ clear) : Answered clear t request (.ok response) t
  | unwound {fault : Fault} (unclear : ¬ clear) : Answered clear t request (.fault fault) t

theorem respond_answered {α : Type} {rawKey : String} {toResponse : α → Response}
    {operation : Int64 → State C W → Outcome ServiceError α × State C W} {request : Request}
    {answer : Int64 → Response × Table} (coherent : Coherent table timeout n s)
    (handled : (table s.2).handle request = (table s.2).respond rawKey answer)
    (ends : ∀ key, Ends
      (fun a s' => Coherent table timeout (n + 1) s' ∧ (toResponse a, table s'.2) = answer key)
      (fun s' => Coherent table timeout (n + 1) s' ∧ table s'.2 = table s.2 ∧
        ¬ Clear b now timeout s.2) (operation key s))
    (errors : ∀ key e, (operation key s).1 = .error e → e.isClientError = false) :
    let (outcome, s') := respond rawKey toResponse operation s
    Coherent table timeout (n + 1) s' ∧
      Answered (Clear b now timeout s.2) (table s.2) request outcome (table s'.2) := by
  unfold respond
  unfold Table.respond at handled
  cases parsed : Key.parse rawKey with
  | error e =>
    rw [parsed] at handled
    refine ⟨coherent.mono, .plain ?_⟩
    rw [handled, parse_error parsed]
  | ok key =>
    rw [parsed] at handled
    have ends := ends key
    have errors := errors key
    simp only
    cases done : operation key s with | mk outcome s' =>
    rw [done] at ends errors
    cases outcome with
    | ok a =>
      obtain ⟨after, answered⟩ := ends
      refine ⟨after, .plain ?_⟩
      simp only [handled, ← answered]
    | error e =>
      obtain ⟨after, same, unclear⟩ := ends
      refine ⟨after, same ▸ .failed ?_ unclear⟩
      rw [Response.ofError, errors e rfl]
      rfl
    | fault fault =>
      obtain ⟨after, same, unclear⟩ := ends
      exact ⟨after, same ▸ .unwound unclear⟩
    | blocked => exact ends.elim

theorem thenInvalidate_error {α : Type} {key : Int64} {event : ServiceEvent}
    {changed : Outcome ServiceError α × State C W} {e : ServiceError}
    (failed : (thenInvalidate key event changed).1 = .error e) : changed.1 = .error e := by
  obtain ⟨outcome, s'⟩ := changed
  cases outcome with
  | ok a =>
    simp only [thenInvalidate] at failed
    split at failed <;> cases failed
  | error _ | fault _ | blocked => exact failed

section Errors

variable {backend : Backend C (State C W)} {key : Int64} {e : ServiceError}

theorem lookup_ne_error (service : Service C) (key : Int64) (e : ServiceError) :
    (service.lookup key).1 ≠ .error e := by
  unfold lookup
  simp only
  split <;> nofun

theorem read_error (failed : (read backend now key s).1 = .error e) : e.isClientError = false := by
  unfold read at failed
  have looks := lookup_ne_error s.1 key e
  cases looked : s.1.lookup key with | mk outcome service =>
  rw [looked] at failed looks
  cases outcome with
  | error _ => exact absurd failed looks
  | fault _ | blocked => cases failed
  | ok found =>
    cases found with
    | some value => cases failed
    | none =>
      simp only at failed
      split at failed
      · split at failed <;> cases failed
      · rename_i same
        exact withConnection_error ((congrArg Prod.fst same).trans failed)

theorem write_error {value : String} (failed : (write backend now key value s).1 = .error e) :
    e.isClientError = false :=
  withConnection_error (thenInvalidate_error failed)

theorem delete_error (failed : (delete backend now key s).1 = .error e) :
    e.isClientError = false := by
  unfold delete at failed
  exact withConnection_error (thenInvalidate_error (Outcome.map_eq_error failed))

end Errors

theorem handle_answered (keeps : b.Keeps table) (coherent : Coherent table timeout n s)
    (room : n + 1 < Word.bound) (request : Request) :
    let (outcome, s') := handle b.undisturbed now request s
    Coherent table timeout (n + 1) s' ∧
      Answered (Clear b now timeout s.2) (table s.2) request outcome (table s'.2) := by
  cases request with
  | get rawKey =>
    refine respond_answered coherent rfl (fun key => ?_) fun key e => read_error
    refine (read_ends keeps coherent room key).mono ?_ fun _ failed => failed
    rintro found s' ⟨after, answered⟩
    obtain ⟨rfl, same⟩ := Prod.mk.inj answered
    refine ⟨after, ?_⟩
    rw [same]
    cases table s.2 key <;> rfl
  | put rawKey body =>
    refine respond_answered coherent rfl (fun key => ?_) fun key e => write_error
    refine (write_ends keeps coherent room key (body.getD "")).mono ?_ fun _ failed => failed
    rintro found s' ⟨after, answered⟩
    obtain ⟨rfl, same⟩ := Prod.mk.inj answered
    refine ⟨after, ?_⟩
    rw [same]
    cases table s.2 key <;> rfl
  | delete rawKey =>
    refine respond_answered coherent rfl (fun key => ?_) fun key e => delete_error
    refine (delete_ends keeps coherent room key).mono ?_ fun _ failed => failed
    rintro _ s' ⟨after, same⟩
    exact ⟨after, by rw [same]; rfl⟩
  | stats => exact ⟨coherent.mono, .stats rfl⟩

structure Arrival (W : Type) where
  now : Instant
  before : W → W
  request : Request

def serve (b : Backend C W) (s : State C W) :
    List (Arrival W) → List (Outcome Empty Response × State C W)
  | [] => []
  | a :: arrivals =>
    let step := handle b.undisturbed a.now a.request (s.1, a.before s.2)
    step :: serve b step.2 arrivals

/-- Requests turn out one after another as beside a table. After each of them the store holds the
    table's rows, and what the cache shows is among them. -/
inductive Transparent (b : Backend C W) (table : W → Table) (timeout : Option Span) :
    State C W → List (Arrival W) → List (Outcome Empty Response × State C W) → Prop
  | nil {s : State C W} : Transparent b table timeout s [] []
  | cons {s s' : State C W} {a : Arrival W} {arrivals : List (Arrival W)}
    {outcome : Outcome Empty Response} {steps : List (Outcome Empty Response × State C W)}
    (answered : Answered (Clear b a.now timeout (a.before s.2)) (table s.2) a.request outcome
      (table s'.2))
    (submap : ∀ key, ∃ shown, s'.1.cache.peek key = .ok shown ∧
      ∀ value, shown = some value → table s'.2 key = some value)
    (rest : Transparent b table timeout s' arrivals steps) :
    Transparent b table timeout s (a :: arrivals) ((outcome, s') :: steps)

theorem Coherent.serve (keeps : b.Keeps table) (arrivals : List (Arrival W))
    (before : ∀ a ∈ arrivals, ∀ w, table (a.before w) = table w)
    (coherent : Coherent table timeout n s) (short : n + arrivals.length < Word.bound) :
    Transparent b table timeout s arrivals (serve b s arrivals) := by
  -- Carried along is the bound on the cache's counters, which a request raises by one at most.
  induction arrivals generalizing s n with
  | nil => exact .nil
  | cons a arrivals ih =>
    rw [List.length_cons] at short
    have same := before a List.mem_cons_self s.2
    have coherent' : Coherent table timeout n (s.1, a.before s.2) :=
      { coherent with submap := same ▸ coherent.submap }
    obtain ⟨after, answered⟩ : _ ∧ Answered (Clear b a.now timeout (a.before s.2)) _ _ _ _ :=
      handle_answered keeps coherent' (by omega) a.request
    refine .cons (same ▸ answered) ?_
      (ih (fun a member => before a (List.mem_cons_of_mem _ member)) after (by omega))
    intro key
    exact ⟨_, after.wellFormed.peek key, after.submap key⟩

/-- Whatever cache and pool it is built from, a service that starts with an empty cache answers each
    request as the store's table alone would, or fails, where a call of the store failed or the
    deadline was out of the clock's range, and then leaves the table as it was. -/
theorem serve_transparent {capacity maxSize : Nat} {policy : CachePolicy}
    {cache : Cache Int64 String} {pool : Pool C} (keeps : b.Keeps table)
    (built : Cache.build capacity policy = .ok cache) (created : Pool.create maxSize = .ok pool)
    (timeout : Option Span) (w : W) (arrivals : List (Arrival W))
    (before : ∀ a ∈ arrivals, ∀ w, table (a.before w) = table w)
    (short : arrivals.length < Word.bound) :
    Transparent b table timeout (create cache pool timeout, w) arrivals
      (serve b (create cache pool timeout, w) arrivals) := by
  obtain ⟨wellFormed, empty, within⟩ := Cache.build_wellFormed built
  obtain ⟨balanced, size, positive⟩ := Pool.create_balanced created
  have coherent : Coherent table timeout 0 (create cache pool timeout, w) := by
    refine ⟨⟨balanced, size ▸ positive⟩, rfl, wellFormed, within, ?_⟩
    intro key value found
    rw [create, empty] at found
    cases found
  exact coherent.serve keeps arrivals before (by omega)

def outage : List (Arrival Store) :=
  [⟨⟨0, 0⟩, (·.refuse true), .put "1" none⟩, ⟨⟨1, 0⟩, (·.refuse false), .put "1" none⟩,
    ⟨⟨2, 0⟩, id, .get "+1"⟩, ⟨⟨3, 0⟩, (·.fail true), .put "1" (some "b")⟩,
    ⟨⟨4, 0⟩, id, .get "1"⟩, ⟨⟨5, 0⟩, (·.fail false), .delete "01"⟩, ⟨⟨6, 0⟩, id, .get "1"⟩]

theorem outage_transparent :
    Store.backend.Keeps Store.peek ∧
      Cache.build 2 .coarse = .ok (.coarse ⟨.create 2⟩ : Cache Int64 String) ∧
      Pool.create 1 = .ok (⟨[], 0, 1⟩ : Pool Store.Connection) ∧
      (∀ a ∈ outage, ∀ w, (a.before w).peek = w.peek) ∧ outage.length < Word.bound ∧
      Transparent Store.backend Store.peek none (create (.coarse ⟨.create 2⟩) ⟨[], 0, 1⟩ none, {})
        outage (serve Store.backend (create (.coarse ⟨.create 2⟩) ⟨[], 0, 1⟩ none, {}) outage) := by
  have built : Cache.build 2 .coarse =
      .ok (.coarse ⟨.create 2⟩ : Cache Int64 String) := rfl
  have before : ∀ a ∈ outage, ∀ w, (a.before w).peek = w.peek := by
    intro a member w
    simp only [outage, List.mem_cons, List.not_mem_nil, or_false] at member
    rcases member with rfl | rfl | rfl | rfl | rfl | rfl | rfl <;> rfl
  have created : Pool.create 1 = .ok (⟨[], 0, 1⟩ : Pool Store.Connection) := rfl
  exact ⟨Store.backend_keeps, built, created, before, by decide,
    serve_transparent Store.backend_keeps built created none {} outage before (by decide)⟩

end Service

end CacheAside
