import CacheAside.Proofs.Cache.Reachable
import CacheAside.Proofs.Service.Interleaving

namespace CacheAside.Service

variable {C W : Type} {b : Backend C W} {table : W → Table}

theorem Event.leaves_of_not_changes {e : Event} {key : Int64} (other : ¬ e.Changes key)
    (before : Option String) : e.leaves key before = before := by
  unfold leaves
  split
  · rename_i upserted
    exact if_neg fun same => other ⟨same, by rw [upserted]; rfl⟩
  · rename_i deleted
    exact if_neg fun same => other ⟨same, by rw [deleted]; rfl⟩
  · rfl

theorem left_of_unchanged {key : Int64} {initial : Option String} {history : List Event}
    (quiet : ∀ e ∈ history, ¬ e.Changes key) : left key initial history = initial := by
  induction history with
  | nil => rfl
  | cons e history ih =>
    obtain ⟨here, quiet⟩ := List.forall_mem_cons.mp quiet
    change e.leaves key (left key initial history) = initial
    rw [Event.leaves_of_not_changes here, ih quiet]

structure Effect (table : W → Table) (s : Racing C W) (e : Event) (s' : Racing C W) : Prop where
  wellFormed : s'.service.cache.WellFormed
  others : ∀ client, client ≠ e.client → s'.stage client = s.stage client
  rows : ∀ key, table s'.world key = e.leaves key (table s.world key)
  shown : ∀ key value, s'.service.cache.view key = some value →
    s.service.cache.view key = some value ∨
      e = ⟨e.client, key, .filled value⟩ ∧ s.stage e.client = .fetched key value
  fetched : ∀ key value, s'.stage e.client = .fetched key value →
    e = ⟨e.client, key, .fetched value⟩ ∧ table s'.world key = some value
  changing : ∀ key, e.Changes key → ∃ event, s'.stage e.client = .changed key event
  changed : ∀ key event, s'.stage e.client = .changed key event → e.Changes key
  finishing : ∀ key event, s.stage e.client = .changed key event →
    s'.service.cache.view key = none

theorem Effect.cached {s : Racing C W} {e : Event} {service : Service C} {stage : Stage}
    (wf : service.cache.WellFormed) (quiet : e.action.changes = false)
    (shown : ∀ key value, service.cache.view key = some value →
      s.service.cache.view key = some value ∨
        e = ⟨e.client, key, .filled value⟩ ∧ s.stage e.client = .fetched key value)
    (ended : ∀ key, (∀ value, stage ≠ .fetched key value) ∧ ∀ event, stage ≠ .changed key event)
    (finishing : ∀ key event, s.stage e.client = .changed key event →
      service.cache.view key = none) :
    Effect table s e ({ s with service }.move e.client stage) where
  wellFormed := wf
  others := fun client other => Racing.move_stage_of_ne other _ _
  rows := by
    intro key
    have other : ¬ e.Changes key := fun changes => Bool.noConfusion (quiet.symm.trans changes.2)
    exact (Event.leaves_of_not_changes other _).symm
  shown := shown
  fetched := by
    intro key value fetched
    rw [Racing.move_stage_self] at fetched
    exact absurd fetched ((ended key).1 value)
  changing := fun key changes => Bool.noConfusion (quiet.symm.trans changes.2)
  changed := by
    intro key event changed
    rw [Racing.move_stage_self] at changed
    exact absurd changed ((ended key).2 event)
  finishing := finishing

theorem Effect.called {s : Racing C W} {e : Event} {world : W} {stage : Stage}
    (wf : s.service.cache.WellFormed)
    (rows : ∀ key, table world key = e.leaves key (table s.world key))
    (fetched : ∀ key value, stage = .fetched key value →
      e = ⟨e.client, key, .fetched value⟩ ∧ table world key = some value)
    (changing : e.action.changes = true → ∃ event, stage = .changed e.key event)
    (changed : ∀ key event, stage = .changed key event → e.Changes key)
    (before : ∀ key event, s.stage e.client ≠ .changed key event) :
    Effect table s e ({ s with world }.move e.client stage) where
  wellFormed := wf
  others := fun client other => Racing.move_stage_of_ne other _ _
  rows := rows
  shown := fun key value shown => .inl shown
  fetched := by
    intro key value held
    rw [Racing.move_stage_self] at held
    exact fetched key value held
  changing := by
    rintro key ⟨rfl, changes⟩
    rw [Racing.move_stage_self]
    exact changing changes
  changed := by
    intro key event held
    rw [Racing.move_stage_self] at held
    exact changed key event held
  finishing := fun key event held => absurd held (before key event)

theorem Effect.failed {s : Racing C W} {client : Nat} {key : Int64} {world : W}
    (wf : s.service.cache.WellFormed) (rows : table world = table s.world)
    (before : ∀ key event, s.stage client ≠ .changed key event) :
    Effect table s ⟨client, key, .failed⟩ ({ s with world }.move client .idle) := by
  exact .called wf (fun key => by rw [rows]; rfl) nofun nofun nofun before

theorem Step.effect (keeps : b.Keeps table) {s s' : Racing C W} {e : Event} (step : Step b s e s')
    (wf : s.service.cache.WellFormed) : Effect table s e s' := by
  cases step with
  | hit idle looked | missed idle looked =>
    obtain ⟨_, recached, shown⟩ := (lookup_ends wf _).of_ok looked
    apply Effect.cached recached.leaves.wellFormed rfl
    · exact fun key' value' found => .inl (shown key' ▸ found)
    · exact fun _ => ⟨nofun, nofun⟩
    · rw [idle]
      nofun
  | @absent client key connection world waiting called =>
    obtain ⟨_, rows⟩ := Prod.mk.inj ((keeps.get connection key s.world).of_ok called)
    exact .called wf (fun key' => by rw [rows]; rfl) nofun nofun nofun (by rw [waiting]; nofun)
  | @fetched client key value connection world waiting called =>
    obtain ⟨held, rows⟩ := Prod.mk.inj ((keeps.get connection key s.world).of_ok called)
    apply Effect.called wf (fun key' => by rw [rows]; rfl)
    · rintro key' value' ⟨⟩
      exact ⟨rfl, by rw [rows, ← held]⟩
    · nofun
    · nofun
    · rw [waiting]
      nofun
  | @filled client key value service holding cached =>
    obtain ⟨recached, shown⟩ := (fill_yields wf key value).of_ok cached
    apply Effect.cached recached.leaves.wellFormed rfl
    · intro key' value' found
      rcases shown key' value' found with ⟨rfl, rfl⟩ | before
      · exact .inr ⟨rfl, holding⟩
      · exact .inl before
    · exact fun _ => ⟨nofun, nofun⟩
    · rw [holding]
      nofun
  | upserted idle called =>
    obtain ⟨_, rows⟩ := Prod.mk.inj ((keeps.upsert _ _ _ _).of_ok called)
    apply Effect.called wf
    · intro key'
      rw [rows, Function.update_apply]
      simp only [Event.leaves, eq_comm]
    · nofun
    · exact fun _ => ⟨.write, rfl⟩
    · rintro key' event ⟨⟩
      exact ⟨rfl, rfl⟩
    · rw [idle]
      nofun
  | deleted idle called =>
    obtain ⟨_, rows⟩ := Prod.mk.inj ((keeps.delete _ _ _).of_ok called)
    apply Effect.called wf
    · intro key'
      rw [rows, Function.update_apply]
      simp only [Event.leaves, eq_comm]
    · nofun
    · exact fun _ => ⟨.delete, rfl⟩
    · rintro key' event ⟨⟩
      exact ⟨rfl, rfl⟩
    · rw [idle]
      nofun
  | @invalidated client key event service changed dropped =>
    obtain ⟨recached, shown⟩ := (invalidate_yields wf key event).of_ok dropped
    apply Effect.cached recached.leaves.wellFormed rfl
    · intro key' value' found
      rw [shown] at found
      split at found
      · cases found
      · exact .inl found
    · exact fun _ => ⟨nofun, nofun⟩
    · intro key' event' held
      rw [changed] at held
      cases held
      rw [shown, if_pos (BEq.rfl)]
  | refused waiting => exact .failed wf rfl (by rw [waiting]; nofun)
  | getFailed waiting called failed =>
    exact .failed wf ((keeps.get _ _ _).of_not_ok called failed) (by rw [waiting]; nofun)
  | upsertFailed idle called failed =>
    exact .failed wf ((keeps.upsert _ _ _ _).of_not_ok called failed) (by rw [idle]; nofun)
  | deleteFailed idle called failed =>
    exact .failed wf ((keeps.delete _ _ _).of_not_ok called failed) (by rw [idle]; nofun)

/-- A value that a client fetched and has yet to cache: the store still holds it, or has been
    changed since. -/
def Held (rows : Table) (history : List Event) (client : Nat) (key : Int64) (value : String) :
    Prop :=
  ∃ since before, history = since ++ ⟨client, key, .fetched value⟩ :: before ∧
    (∀ e ∈ since, e.client ≠ client) ∧ (rows key = some value ∨ ∃ e ∈ since, e.Changes key)

structure Tracked (table : W → Table) (initial : Table) (history : List Event) (s : Racing C W) :
    Prop where
  wellFormed : s.service.cache.WellFormed
  rows : ∀ key, table s.world key = left key (initial key) history
  fetched : ∀ client key value, s.stage client = .fetched key value →
    Held (table s.world) history client key value
  changed : ∀ client key event, s.stage client = .changed key event →
    ∃ e ∈ history, e.client = client ∧ e.Changes key
  current : ∀ key, ¬ Raced key history → (∃ client event, s.stage client = .changed key event) ∨
    ∀ value, s.service.cache.view key = some value → table s.world key = some value

theorem Raced.later {key : Int64} {history : List Event} (raced : Raced key history) (e : Event) :
    Raced key (e :: history) := by
  obtain ⟨after, client, value, between, before, shape, overtaken⟩ := raced
  exact ⟨e :: after, client, value, between, before, by rw [shape]; rfl, overtaken⟩

variable {initial : Table} {history : List Event} {s s' : Racing C W} {e : Event}

/-- Caching a value that the store no longer holds completes a race. -/
theorem Held.raced {rows : Table} {client : Nat} {key : Int64} {value : String}
    (held : Held rows history client key value) (stale : rows key ≠ some value) :
    Raced key (⟨client, key, .filled value⟩ :: history) := by
  obtain ⟨since, before, shape, alone, fresh | overtaken⟩ := held
  · exact absurd fresh stale
  · exact ⟨[], client, value, since, before, by rw [shape]; rfl, overtaken, alone⟩

theorem Held.later {rows rows' : Table} {client : Nat} {key : Int64} {value : String}
    (held : Held rows history client key value) (other : client ≠ e.client)
    (leaves : rows' key = e.leaves key (rows key)) :
    Held rows' (e :: history) client key value := by
  obtain ⟨since, before, shape, alone, fresh⟩ := held
  refine ⟨e :: since, before, by rw [shape]; rfl, ?_, ?_⟩
  · intro e' member
    rcases List.mem_cons.mp member with rfl | member
    · exact other.symm
    · exact alone e' member
  · by_cases changes : e.Changes key
    · exact .inr ⟨e, List.mem_cons_self, changes⟩
    · rw [leaves, Event.leaves_of_not_changes changes]
      rcases fresh with fresh | ⟨e', member, changes⟩
      · exact .inl fresh
      · exact .inr ⟨e', List.mem_cons_of_mem _ member, changes⟩

theorem Tracked.step (tracked : Tracked table initial history s) (effect : Effect table s e s') :
    Tracked table initial (e :: history) s' where
  wellFormed := effect.wellFormed
  rows := by
    intro key
    rw [effect.rows, tracked.rows]
    rfl
  fetched := by
    intro client key value fetched
    by_cases own : client = e.client
    · subst own
      obtain ⟨same, fresh⟩ := effect.fetched key value fetched
      exact ⟨[], history, by rw [← same]; rfl, nofun, .inl fresh⟩
    · rw [effect.others client own] at fetched
      exact (tracked.fetched client key value fetched).later own (effect.rows key)
  changed := by
    intro client key event changed
    by_cases own : client = e.client
    · subst own
      exact ⟨e, List.mem_cons_self, rfl, effect.changed key event changed⟩
    · rw [effect.others client own] at changed
      obtain ⟨e', member, from_⟩ := tracked.changed client key event changed
      exact ⟨e', List.mem_cons_of_mem _ member, from_⟩
  current := by
    intro key clean
    by_cases changes : e.Changes key
    · obtain ⟨event, changed⟩ := effect.changing key changes
      exact .inl ⟨e.client, event, changed⟩
    have same : table s'.world key = table s.world key := by
      rw [effect.rows, Event.leaves_of_not_changes changes]
    have before := tracked.current key fun raced => clean (raced.later e)
    rcases before with ⟨client, event, changed⟩ | fresh
    · by_cases own : client = e.client
      · subst own
        right
        intro value found
        rw [effect.finishing key event changed] at found
        cases found
      · exact .inl ⟨client, event, by rw [effect.others client own, changed]⟩
    · right
      intro value found
      rw [same]
      rcases effect.shown key value found with before | ⟨filled, held⟩
      · exact fresh value before
      · by_contra stale
        apply clean
        rw [filled]
        exact (tracked.fetched _ key value held).raced stale

/-- A cache that shows only what the store holds, while no operation is on its way. -/
structure Settled (table : W → Table) (s : Racing C W) : Prop where
  reachable : s.service.cache.Reachable
  coherent : ∀ key value, s.service.cache.peek key = .ok (some value) →
    table s.world key = some value
  idle : ∀ client, s.stage client = .idle

/-- An empty cache shows nothing, whatever the store holds. -/
theorem Settled.create {capacity : Nat} {policy : CachePolicy} {cache : Cache Int64 String}
    (built : Cache.build capacity policy = .ok cache) (pool : Pool C) (timeout : Option Span)
    (w : W) : Settled table ⟨create cache pool timeout, w, fun _ => .idle⟩ := by
  obtain ⟨wf, empty, _⟩ := Cache.build_wellFormed built
  refine ⟨.built built, ?_, fun _ => rfl⟩
  intro key value shown
  have peeked := wf.peek key
  rw [empty] at peeked
  cases peeked.symm.trans shown

variable {start : Racing C W}

theorem Runs.tracked (keeps : b.Keeps table) (settled : Settled table start)
    (runs : Runs b table start history s) : Tracked table (table start.world) history s := by
  induction runs with
  | start =>
    have wf := settled.reachable.wellFormed
    refine ⟨wf, fun _ => rfl, ?_, ?_, ?_⟩
    · intro client key value fetched
      rw [settled.idle] at fetched
      cases fetched
    · intro client key event changed
      rw [settled.idle] at changed
      cases changed
    · intro key _
      right
      intro value found
      exact settled.coherent key value (by rw [wf.peek, found])
  | step _ step ih => exact ih.step (step.effect keeps ih.wellFormed)
  | elsewhere _ cache rows ih =>
    refine ⟨cache ▸ ih.wellFormed, ?_, ?_, ih.changed, ?_⟩
    · intro key
      rw [rows]
      exact ih.rows key
    · simp only [rows]
      exact ih.fetched
    · simp only [rows, cache]
      exact ih.current

theorem Step.returns (keeps : b.Keeps table) (step : Step b s e s')
    (wf : s.service.cache.WellFormed) {result : Option String}
    (found : e.action.found = some result) :
    (s.stage e.client = .idle ∧ result = s.service.cache.view e.key ∧ result.isSome) ∨
      (∃ value, result = some value ∧ s.stage e.client = .fetched e.key value) ∨
      result = table s.world e.key := by
  cases step with
  | hit idle looked =>
    cases found
    exact .inl ⟨idle, ((lookup_ends wf _).of_ok looked).1, rfl⟩
  | filled holding _ =>
    cases found
    exact .inr (.inl ⟨_, rfl, holding⟩)
  | absent _ called =>
    cases found
    exact .inr (.inr (Prod.mk.inj ((keeps.get _ _ _).of_ok called)).1)
  | _ => cases found

theorem not_raced_of_alone {key : Int64} {client : Nat}
    (alone : ∀ e ∈ history, e.key = key → e.client = client) : ¬ Raced key history := by
  rintro ⟨after, other, value, between, before, shape, ⟨e, member, changes⟩, absent⟩
  subst shape
  have same : other = client := alone ⟨other, key, .filled value⟩ (by simp) rfl
  exact absent e member (same ▸ alone e (by simp [member]) changes.1)

theorem Tracked.returns (tracked : Tracked table initial history s) (keeps : b.Keeps table)
    (step : Step b s e s') {result : Option String} (found : e.action.found = some result)
    (alone : ∀ e' ∈ history, e'.key = e.key → e'.client = e.client) :
    result = left e.key (initial e.key) history := by
  rw [← tracked.rows]
  rcases step.returns keeps tracked.wellFormed found with
    ⟨idle, shown, some⟩ | ⟨value, rfl, fetched⟩ | row
  · rcases tracked.current e.key (not_raced_of_alone alone) with ⟨client, event, changed⟩ | fresh
    · obtain ⟨e', member, own, changes⟩ := tracked.changed client e.key event changed
      rw [← own, alone e' member changes.1, idle] at changed
      cases changed
    · obtain ⟨value, rfl⟩ := Option.isSome_iff_exists.mp some
      exact (fresh value shown.symm).symm
  · obtain ⟨since, before, rfl, others, fresh | ⟨e', member, changes⟩⟩ :=
      tracked.fetched e.client e.key value fetched
    · exact fresh.symm
    · exact absurd (alone e' (List.mem_append_left _ member) changes.1) (others e' member)
  · exact row

theorem Runs.split_append {after before : List Event} (runs : Runs b table start history s)
    (shape : history = after ++ e :: before) :
    ∃ s₁ s₂, Runs b table start before s₁ ∧ Step b s₁ e s₂ ∧ Runs b table s₂ after s := by
  induction runs generalizing after with
  | start => exact absurd shape.symm (by simp)
  | step runs step ih =>
    cases after with
    | nil =>
      obtain ⟨rfl, rfl⟩ := List.cons.inj shape
      exact ⟨_, _, runs, step, .start⟩
    | cons last after =>
      obtain ⟨rfl, rest⟩ := List.cons.inj shape
      obtain ⟨s₁, s₂, earlier, here, later⟩ := ih rest
      exact ⟨s₁, s₂, earlier, here, later.step step⟩
  | elsewhere _ cache rows ih =>
    obtain ⟨s₁, s₂, earlier, here, later⟩ := ih shape
    exact ⟨s₁, s₂, earlier, here, later.elsewhere cache rows⟩

theorem Runs.split (runs : Runs b table start history s) (member : e ∈ history) :
    ∃ after before s₁ s₂, history = after ++ e :: before ∧ Runs b table start before s₁ ∧
      Step b s₁ e s₂ ∧ Runs b table s₂ after s := by
  obtain ⟨after, before, shape⟩ := List.append_of_mem member
  obtain ⟨s₁, s₂, earlier, step, later⟩ := runs.split_append shape
  exact ⟨after, before, s₁, s₂, shape, earlier, step, later⟩

theorem Runs.returns (keeps : b.Keeps table) (settled : Settled table start)
    (runs : Runs b table start history s) {result : Option String} {earlier : List Event}
    (last : history = e :: earlier) (found : e.action.found = some result)
    (alone : ∀ e' ∈ earlier, e'.key = e.key → e'.client = e.client) :
    result = left e.key (table start.world e.key) earlier := by
  induction runs with
  | start => cases last
  | step runs step _ =>
    cases last
    exact (runs.tracked keeps settled).returns keeps step found alone
  | elsewhere _ _ _ ih => exact ih last

end CacheAside.Service
