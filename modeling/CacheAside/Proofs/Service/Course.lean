import CacheAside.Proofs.Cache.Product
import CacheAside.Proofs.Pool.Balance
import CacheAside.Proofs.Service.Caching

namespace CacheAside.Service

variable {C W α : Type}

/-- A caller gets the connection that was idle longest, or where none was idle a new one. -/
inductive Lent (b : Backend C W) (pool : Pool C) (w : W) (c : C) : Pool C → W → Prop
  | idle {idle : List C} (longest : pool.idle = c :: idle) : Lent b pool w c { pool with idle } w
  | opened {w' : W} (nobody : pool.idle = []) (room : pool.total < pool.maxSize)
    (connected : b.connect w = (.ok c, w')) :
    Lent b pool w c { pool with total := pool.total + 1 } w'

inductive Unlent (b : Backend C W) (now : Instant) (timeout : Option Span) (pool : Pool C) (w : W) :
    Outcome ServiceError Empty → W → Prop
  | exhausted {span : Span} (bounded : timeout = some span) (exhausted : pool.checkout = none) :
    Unlent b now timeout pool w (.error (.timeout span)) w
  | deadline {span : Span} {fault : Fault} (bounded : timeout = some span)
    (beyond : now.after span = .error fault) : Unlent b now timeout pool w (.fault fault) w
  | refused {e : ConnectionError} {w' : W} (nobody : pool.idle = [])
    (connected : b.connect w = (.error e, w')) :
    Unlent b now timeout pool w (.error (.connection e)) w'
  | broken {fault : Fault} {w' : W} (nobody : pool.idle = [])
    (connected : b.connect w = (.fault fault, w')) :
    Unlent b now timeout pool w (.fault fault) w'

inductive Acquires (b : Backend C W) (now : Instant) (s : State C W) :
    Outcome ServiceError C → State C W → Prop
  | lent {c : C} {p : Pool C} {w : W} (lent : Lent b s.1.pool s.2 c p w) :
    Acquires b now s (.ok c) ({ s.1 with pool := p }, w)
  | refused {e : ServiceError} {w : W}
    (unlent : Unlent b now s.1.acquireTimeout s.1.pool s.2 (.error e) w) :
    Acquires b now s (.error e) (s.1, w)
  | unwound {fault : Fault} {w : W}
    (unlent : Unlent b now s.1.acquireTimeout s.1.pool s.2 (.fault fault) w) :
    Acquires b now s (.fault fault) (s.1, w)
  | waiting (unbounded : s.1.acquireTimeout = none) (exhausted : s.1.pool.checkout = none) :
    Acquires b now s .blocked s
  | opening {w : W} {s' : State C W} (connected : b.connect s.2 = (.blocked, w)) :
    Acquires b now s .blocked s'

variable {b : Backend C W} {now : Instant} {s : State C W}

theorem Lent.balanced {pool p : Pool C} {w w' : W} {c : C} (lent : Lent b pool w c p w')
    (balanced : pool.Balanced 0) : p.Balanced 1 ∧ p.maxSize = pool.maxSize := by
  have total := balanced.total
  have fits := balanced.fits
  cases lent with
  | idle longest =>
    rw [longest, List.length_cons] at total
    exact ⟨⟨total, fits⟩, rfl⟩
  | opened nobody room connected => exact ⟨⟨congrArg Nat.succ total, room⟩, rfl⟩

theorem onPool_course {checkedOut : Checkout C} {p : Pool C}
    {action : Pool C × State C W → Outcome ServiceError C × (Pool C × State C W)}
    (taken : s.1.pool.checkout = some (checkedOut, p))
    (acts : action (s.1.pool, s) =
      let (opened, s') := Pool.complete (openConnection b.undisturbed) checkedOut (p, s)
      (opened.mapError .connection, s')) :
    Acquires b now s (onPool action s).1 (onPool action s).2 := by
  obtain ⟨service, w⟩ := s
  simp only [onPool, acts]
  cases checkedOut with
  | idle connection =>
    obtain ⟨longest, total, size⟩ := Pool.checkout_eq_idle taken
    obtain ⟨idle, _, _⟩ := p
    cases total
    cases size
    exact .lent (.idle longest)
  | opening =>
    obtain ⟨nobody, room, rfl⟩ := Pool.checkout_eq_opening taken
    have forgot : Pool.forget { service.pool with total := service.pool.total + 1 } =
        .ok service.pool := by
      rw [Pool.forget, Word.sub_of_le (Nat.succ_pos _)]
      rfl
    cases connected : b.connect w with | mk opened w' =>
    simp only [Pool.complete, openConnection, Backend.undisturbed, beside, connected]
    cases opened with
    | ok connection => exact .lent (.opened nobody room connected)
    | error e =>
      simp only [Pool.settle, forgot]
      exact .refused (.refused nobody connected)
    | fault fault =>
      simp only [Pool.settle, forgot]
      exact .unwound (.broken nobody connected)
    | blocked => exact .opening connected

theorem acquire_course (b : Backend C W) (now : Instant) (s : State C W) :
    Acquires b now s (acquire b.undisturbed now s).1 (acquire b.undisturbed now s).2 := by
  unfold acquire
  cases bounded : s.1.acquireTimeout with
  | none =>
    cases taken : s.1.pool.checkout with
    | none =>
      simp only [onPool, Pool.acquire, taken]
      exact .waiting bounded taken
    | some checkout =>
      refine onPool_course taken ?_
      simp only [Pool.acquire, taken]
  | some timeout =>
    cases deadline : now.after timeout with
    | error fault =>
      simp only [onPool, Pool.acquireWithin, deadline]
      exact .unwound (.deadline bounded deadline)
    | ok moment =>
      cases taken : s.1.pool.checkout with
      | none =>
        simp only [onPool, Pool.acquireWithin, deadline, taken]
        exact .refused (.exhausted bounded taken)
      | some checkout =>
        refine onPool_course taken ?_
        simp only [Pool.acquireWithin, deadline, taken]
        cases (Pool.complete _ checkout.1 (checkout.2, s)).1 <;> rfl

def noting (note : Option ServiceEvent) (s : Service C) : Service C :=
  match note with
  | none => s
  | some event => s.record event

/-- All that can come of a query on a pooled connection, with what is counted when the query begins.
    The connection is given back whatever the query comes to. -/
inductive Connects (b : Backend C W) (now : Instant) (note : Option ServiceEvent)
    (query : C → W → Outcome StoreError α × W) (s : State C W) :
    Outcome ServiceError α → State C W → Prop
  | answered {c : C} {p : Pool C} {w w' : W} {a : α} (lent : Lent b s.1.pool s.2 c p w)
    (called : query c w = (.ok a, w')) :
    Connects b now note query s (.ok a) ((noting note { s.1 with pool := p }).release c, w')
  | failed {c : C} {p : Pool C} {w w' : W} {e : StoreError} (lent : Lent b s.1.pool s.2 c p w)
    (called : query c w = (.error e, w')) :
    Connects b now note query s (.error (.store e))
      (((noting note { s.1 with pool := p }).release c).record .error, w')
  | broken {c : C} {p : Pool C} {w w' : W} {fault : Fault} (lent : Lent b s.1.pool s.2 c p w)
    (called : query c w = (.fault fault, w')) :
    Connects b now note query s (.fault fault) ((noting note { s.1 with pool := p }).release c, w')
  | refused {e : ServiceError} {w : W}
    (unlent : Unlent b now s.1.acquireTimeout s.1.pool s.2 (.error e) w) :
    Connects b now note query s (.error e) (s.1.record .error, w)
  | unwound {fault : Fault} {w : W}
    (unlent : Unlent b now s.1.acquireTimeout s.1.pool s.2 (.fault fault) w) :
    Connects b now note query s (.fault fault) (s.1, w)
  | waiting {s' : State C W} (waits : Acquires b now s .blocked s') :
    Connects b now note query s .blocked s'
  | calling {c : C} {p : Pool C} {w w' : W} {s' : State C W} (lent : Lent b s.1.pool s.2 c p w)
    (called : query c w = (.blocked, w')) : Connects b now note query s .blocked s'

theorem withConnection_course {note : Option ServiceEvent}
    {query : C → W → Outcome StoreError α × W} {outcome : Outcome ServiceError α}
    {s' : State C W} (done : withConnection b.undisturbed now
      (fun c s => beside (query c) (noting note s.1, s.2)) s = (outcome, s')) :
    Connects b now note query s outcome s' := by
  have acquires := acquire_course b now s
  unfold withConnection at done
  cases acquired : acquire b.undisturbed now s with | mk got s₁ =>
  rw [acquired] at acquires done
  cases acquires with
  | @lent c p w lent =>
    cases called : query c w with | mk answer w' =>
    simp only [beside, called] at done
    cases answer with
    | ok a =>
      cases done
      exact .answered lent called
    | error e =>
      cases done
      exact .failed lent called
    | fault fault =>
      cases done
      exact .broken lent called
    | blocked =>
      cases done
      exact .calling lent called
  | refused unlent =>
    cases done
    exact .refused unlent
  | unwound unlent =>
    cases done
    exact .unwound unlent
  | waiting unbounded exhausted =>
    cases done
    exact .waiting (.waiting unbounded exhausted)
  | opening connected =>
    cases done
    exact .waiting (.opening connected)

theorem Connects.cache {note : Option ServiceEvent} {query : C → W → Outcome StoreError α × W}
    {outcome : Outcome ServiceError α} {s' : State C W}
    (course : Connects b now note query s outcome s') (ended : outcome ≠ .blocked) :
    s'.1.cache = s.1.cache := by
  cases course with
  | answered lent _ | failed lent _ | broken lent _ => cases note <;> rfl
  | refused _ | unwound _ => rfl
  | waiting _ | calling _ _ => exact absurd rfl ended

inductive Reads (b : Backend C W) (now : Instant) (key : Int64) (s : State C W) :
    Outcome ServiceError (Option String) → State C W → Prop
  | hit {value : String} {cache : Cache Int64 String}
    (got : s.1.cache.get key = .ok (some value, cache)) :
    Reads b now key s (.ok (some value)) ({ s.1.record .get with cache }.record .cacheHit, s.2)
  | absent {cache : Cache Int64 String} {s' : State C W}
    (got : s.1.cache.get key = .ok (none, cache))
    (fetched : Connects b now (some .storeRead) (fun c => b.get c key)
      ({ s.1.record .get with cache }, s.2) (.ok none) s') : Reads b now key s (.ok none) s'
  | filled {cache : Cache Int64 String} {value : String} {s' : State C W} {filled : Service C}
    (got : s.1.cache.get key = .ok (none, cache))
    (fetched : Connects b now (some .storeRead) (fun c => b.get c key)
      ({ s.1.record .get with cache }, s.2) (.ok (some value)) s')
    (fills : s'.1.fill key value = .ok filled) :
    Reads b now key s (.ok (some value)) (filled, s'.2)
  | unanswered {cache : Cache Int64 String} {outcome : Outcome ServiceError (Option String)}
    {s' : State C W} (got : s.1.cache.get key = .ok (none, cache))
    (fetched : Connects b now (some .storeRead) (fun c => b.get c key)
      ({ s.1.record .get with cache }, s.2) outcome s')
    (unanswered : ∀ found, outcome ≠ .ok found) : Reads b now key s outcome s'

inductive Changes (b : Backend C W) (now : Instant) (key : Int64) (event : ServiceEvent)
    (query : C → W → Outcome StoreError α × W) (s : State C W) :
    Outcome ServiceError α → State C W → Prop
  | changed {a : α} {s' : State C W} {dropped : Service C}
    (answered : Connects b now none query s (.ok a) s')
    (drops : s'.1.invalidate key event = .ok dropped) :
    Changes b now key event query s (.ok a) (dropped, s'.2)
  | unanswered {outcome : Outcome ServiceError α} {s' : State C W}
    (course : Connects b now none query s outcome s') (unanswered : ∀ a, outcome ≠ .ok a) :
    Changes b now key event query s outcome s'

/-- A lookup counts no arrival, so there is still room to count one. -/
theorem room_to_fill {c c' : Cache Int64 String} (leaves : c.Leaves CacheEvent.lookups c')
    (room : ¬ c.Full CacheEvent.all) : ¬ c'.Full CacheEvent.arrivals := by
  refine (leaves.counted _ (Cache.within_of_room room)).not_full ?_
  intro event member
  have uncounted : CacheEvent.lookups.count event = 0 := by
    revert event
    decide
  rw [uncounted]
  decide

theorem read_course (wf : s.1.cache.WellFormed) (room : ¬ s.1.cache.Full CacheEvent.all)
    (key : Int64) :
    Reads b now key s (read b.undisturbed now key s).1 (read b.undisturbed now key s).2 := by
  obtain ⟨⟨found, cache⟩, got, _, leaves, _⟩ :=
    (wf.get key).returns fun full => room (full.mono (CacheEvent.subset_all _))
  unfold read
  cases found with
  | some value =>
    have looked : s.1.lookup key =
        (.ok (some value), { s.1.record .get with cache }.record .cacheHit) := by
      simp only [lookup, record, got]
    simp only [looked]
    exact .hit got
  | none =>
    have looked : s.1.lookup key = (.ok none, { s.1.record .get with cache }) := by
      simp only [lookup, record, got]
    simp only [looked]
    cases fetched : withConnection b.undisturbed now
        (fun c s => b.undisturbed.get c key (s.1.record .storeRead, s.2))
        ({ s.1.record .get with cache }, s.2) with
    | mk outcome s' =>
    have course : Connects b now (some .storeRead) (fun c => b.get c key)
        ({ s.1.record .get with cache }, s.2) outcome s' := withConnection_course fetched
    cases outcome with
    | ok found =>
      cases found with
      | none => exact .absent got course
      | some value =>
        have kept : s'.1.cache = cache := course.cache (by simp)
        obtain ⟨filled, fills, _⟩ :=
          (fill_yields (kept ▸ leaves.wellFormed) key value).returns
            (kept ▸ room_to_fill leaves room)
        simp only [fills]
        exact .filled got course fills
    | error _ | fault _ | blocked => exact .unanswered got course (by simp)

theorem change_course {key : Int64} {event : ServiceEvent}
    {query : C → W → Outcome StoreError α × W} {outcome : Outcome ServiceError α} {s' : State C W}
    (wf : s.1.cache.WellFormed) (room : ¬ s.1.cache.Full CacheEvent.all)
    (done : thenInvalidate key event
      (withConnection b.undisturbed now (fun c => beside (query c)) s) = (outcome, s')) :
    Changes b now key event query s outcome s' := by
  cases changed : withConnection b.undisturbed now (fun c => beside (query c)) s with
  | mk got s₁ =>
  have course : Connects b now none query s got s₁ := withConnection_course changed
  rw [changed] at done
  cases got with
  | ok a =>
    have kept := course.cache (by simp)
    have notFull : ¬ s₁.1.cache.Full CacheEvent.departures :=
      kept ▸ fun full => room (full.mono (CacheEvent.subset_all _))
    obtain ⟨dropped, drops, _⟩ := (invalidate_yields (kept ▸ wf) key event).returns notFull
    simp only [thenInvalidate, drops] at done
    cases done
    exact .changed course drops
  | error _ | fault _ | blocked =>
    cases done
    exact .unanswered course (by simp)

end CacheAside.Service
