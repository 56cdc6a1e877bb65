import CacheAside.Proofs.Service.Operations
import CacheAside.Proofs.Service.Staleness

namespace CacheAside.Service

variable {C W : Type} {b : Backend C W} {table : W → Table}

def WasStored (b : Backend C W) (table : W → Table) (start : Racing C W) (history : List Event)
    (s : Racing C W) (key : Int64) (value : String) : Prop :=
  ∃ before after s₀, history = after ++ before ∧ Runs b table start before s₀ ∧
    Runs b table s₀ after s ∧ table s₀.world key = some value

def Missed (history : List Event) (client : Nat) (key : Int64) : Prop :=
  ∃ since before, history = since ++ ⟨client, key, .missed⟩ :: before ∧
    ∀ e ∈ since, e.client ≠ client

/-- A read got its answer that there is no row from the store, which it asked itself after the cache
    had nothing, and which had no row then. -/
structure Absence (b : Backend C W) (table : W → Table) (start : Racing C W) (e : Event)
    (earlier : List Event) : Prop where
  queried : e.action = .absent
  missed : Missed earlier e.client e.key
  row : ∃ s₁ s₂, Runs b table start earlier s₁ ∧ Step b s₁ e s₂ ∧ table s₁.world e.key = none

/-- Where a read got what it returned, `since` being all that happened while it lasted: its value
    was in the store at some moment, and that there is no row the store told it. -/
structure Sourced (b : Backend C W) (table : W → Table) (start : Racing C W)
    (history : List Event) (s : Racing C W) (client : Nat) (key : Int64) (found : Option String)
    (since : List Event) (s' : Racing C W) : Prop where
  value : ∀ value, found = some value → WasStored b table start (since ++ history) s' key value
  absence : found = none → ∃ after before s₁ s₂,
    since = after ++ ⟨client, key, .absent⟩ :: before ∧ Runs b table s before s₁ ∧
    Step b s₁ ⟨client, key, .absent⟩ s₂ ∧ table s₁.world key = none

variable {start s s' : Racing C W} {history since : List Event} {e : Event} {key : Int64}
  {value : String}

theorem WasStored.here (runs : Runs b table start history s)
    (row : table s.world key = some value) : WasStored b table start history s key value :=
  ⟨history, [], s, rfl, runs, .start, row⟩

theorem WasStored.onwards (stored : WasStored b table start history s key value)
    (runs : Runs b table s since s') : WasStored b table start (since ++ history) s' key value := by
  obtain ⟨before, after, s₀, rfl, earlier, later, row⟩ := stored
  exact ⟨before, since ++ after, s₀, (List.append_assoc ..).symm, earlier, later.trans runs, row⟩

theorem WasStored.step (stored : WasStored b table start history s key value)
    (step : Step b s e s') : WasStored b table start (e :: history) s' key value :=
  stored.onwards (Runs.start.step step)

theorem Missed.later {client : Nat} (missed : Missed history client key)
    (other : client ≠ e.client) : Missed (e :: history) client key := by
  obtain ⟨since, before, rfl, absent⟩ := missed
  exact ⟨e :: since, before, rfl, List.forall_mem_cons.mpr ⟨other.symm, absent⟩⟩

theorem Step.eq_missed (step : Step b s e s') (landed : s'.stage e.client = .missed key) :
    e = ⟨e.client, key, .missed⟩ := by
  cases step with
  | missed =>
    rw [Racing.move_stage_self] at landed
    cases landed
    rfl
  | _ =>
    rw [Racing.move_stage_self] at landed
    cases landed

/-- Whatever a run has put in the cache, or is about to put there, the store held at some moment. -/
structure Traced (b : Backend C W) (table : W → Table) (start : Racing C W) (history : List Event)
    (s : Racing C W) : Prop where
  wellFormed : s.service.cache.WellFormed
  cached : ∀ key value, s.service.cache.view key = some value →
    WasStored b table start history s key value
  fetched : ∀ client key value, s.stage client = .fetched key value →
    WasStored b table start history s key value
  missed : ∀ client key, s.stage client = .missed key → Missed history client key

theorem Traced.step (traced : Traced b table start history s) (keeps : b.Keeps table)
    (runs : Runs b table start history s) (step : Step b s e s') :
    Traced b table start (e :: history) s' := by
  have effect := step.effect keeps traced.wellFormed
  refine ⟨effect.wellFormed, ?_, ?_, ?_⟩
  · intro key value shown
    rcases effect.shown key value shown with before | ⟨_, held⟩
    · exact (traced.cached key value before).step step
    · exact (traced.fetched e.client key value held).step step
  · intro client key value held
    by_cases own : client = e.client
    · subst own
      exact .here (runs.step step) (effect.fetched key value held).2
    · rw [effect.others client own] at held
      exact (traced.fetched client key value held).step step
  · intro client key waiting
    by_cases own : client = e.client
    · subst own
      exact ⟨[], history, by rw [← step.eq_missed waiting]; rfl, nofun⟩
    · rw [effect.others client own] at waiting
      exact (traced.missed client key waiting).later own

theorem Runs.traced (keeps : b.Keeps table) (settled : Settled table start)
    (runs : Runs b table start history s) : Traced b table start history s := by
  induction runs with
  | start =>
    have wf := settled.reachable.wellFormed
    refine ⟨wf, ?_, ?_, ?_⟩
    · intro key value shown
      exact .here .start (settled.coherent key value (by rw [wf.peek, shown]))
    · intro client key value held
      rw [settled.idle] at held
      cases held
    · intro client key waiting
      rw [settled.idle] at waiting
      cases waiting
  | step runs step ih => exact ih.step keeps runs step
  | @elsewhere s history service world runs cache rows ih =>
    have aside : Runs b table s [] { s with service, world } := Runs.start.elsewhere cache rows
    refine ⟨cache ▸ ih.wellFormed, ?_, ?_, ih.missed⟩
    · intro key value shown
      rw [cache] at shown
      exact (ih.cached key value shown).onwards aside
    · exact fun client key value held => (ih.fetched client key value held).onwards aside

theorem Traced.returned (traced : Traced b table start history s) (keeps : b.Keeps table)
    (runs : Runs b table start history s) (step : Step b s e s')
    (found : e.action.found = some (some value)) :
    WasStored b table start (e :: history) s' e.key value := by
  refine WasStored.step ?_ step
  rcases step.returns keeps traced.wellFormed found with
    ⟨_, shown, _⟩ | ⟨held, same, fetched⟩ | row
  · exact traced.cached e.key value shown.symm
  · cases same
    exact traced.fetched e.client e.key value fetched
  · exact .here runs row.symm

theorem Step.of_found_none (keeps : b.Keeps table) (step : Step b s e s')
    (found : e.action.found = some none) :
    e.action = .absent ∧ s.stage e.client = .missed e.key ∧ table s.world e.key = none := by
  cases step with
  | @absent client key connection world waiting called =>
    obtain ⟨row, _⟩ := Prod.mk.inj ((keeps.get connection key s.world).of_ok called)
    exact ⟨rfl, waiting, row.symm⟩
  | _ => cases found

theorem Runs.absence (keeps : b.Keeps table) (settled : Settled table start) {earlier : List Event}
    (runs : Runs b table start (e :: earlier) s) (found : e.action.found = some none) :
    Absence b table start e earlier := by
  obtain ⟨s₁, s₂, before, step, _⟩ := runs.split_append (List.nil_append _).symm
  obtain ⟨queried, waiting, row⟩ := step.of_found_none keeps found
  exact ⟨queried, (before.traced keeps settled).missed e.client e.key waiting,
    s₁, s₂, before, step, row⟩

theorem Runs.sourced (keeps : b.Keeps table) (settled : Settled table start)
    (runs : Runs b table start history s) (lasted : Runs b table s since s') (member : e ∈ since)
    {found : Option String} (returned : e.action.found = some found) :
    Sourced b table start history s e.client e.key found since s' := by
  obtain ⟨after, before, s₁, s₂, rfl, earlier, step, later⟩ := lasted.split member
  have sofar : Runs b table start (before ++ history) s₁ := runs.trans earlier
  refine ⟨?_, ?_⟩
  · rintro value rfl
    have stored := ((sofar.traced keeps settled).returned keeps sofar step returned).onwards later
    rwa [List.append_assoc]
  · rintro rfl
    obtain ⟨client, key, action⟩ := e
    obtain ⟨queried, _, row⟩ := step.of_found_none keeps returned
    cases queried
    exact ⟨after, before, s₁, s₂, rfl, earlier, step, row⟩

def OnceStored (b : Backend C W) (table : W → Table) (start : Racing C W) (history : List Event)
    (s : Racing C W) : Prop :=
  ∀ key value, s.service.cache.peek key = .ok (some value) →
    WasStored b table start history s key value

theorem Runs.onceStored (keeps : b.Keeps table) (settled : Settled table start)
    (runs : Runs b table start history s) : OnceStored b table start history s := by
  have traced := runs.traced keeps settled
  intro key value shown
  rw [traced.wellFormed.peek] at shown
  exact traced.cached key value (Except.ok.inj shown)

/-- Where values come from, whoever races with whom. What the cache holds for a key, and what a read
    of the key returns, was the store's value of it at some moment of the run. And no read takes it
    from the cache that there is no row: the read asked the store, which had none. The operations
    take the steps that this is said of, whatever others do meanwhile. -/
theorem provenance (keeps : b.Keeps table) (settled : Settled table start)
    (runs : Runs b table start history s) :
    (∀ key value, s.service.cache.peek key = .ok (some value) →
      WasStored b table start history s key value) ∧
    (∀ e earlier value, history = e :: earlier → e.action.found = some (some value) →
      WasStored b table start history s e.key value) ∧
    (∀ e earlier, history = e :: earlier → e.action.found = some none →
      Absence b table start e earlier) ∧
    ∀ client others crowded, (∀ e, others e → e.client ≠ client) →
      Around b table others crowded → s.stage client = .idle → ∀ now key,
      (∀ found s', read crowded now key (s.service, s.world) = (.ok found, s') →
        ∃ since stage', Runs b table s since ⟨s'.1, s'.2, stage'⟩ ∧
          Sourced b table start history s client key found since ⟨s'.1, s'.2, stage'⟩) ∧
      Proceeds b table others client key (ReadSteps client key) start history s
        (OnceStored b table start) (read crowded now key (s.service, s.world)) ∧
      (∀ value, Proceeds b table others client key (ChangeSteps client key (.upserted value)) start
        history s (OnceStored b table start)
        (write crowded now key value (s.service, s.world))) ∧
      Proceeds b table others client key (ChangeSteps client key .deleted) start history s
        (OnceStored b table start) (delete crowded now key (s.service, s.world)) := by
  have few := runs.few (.of_idle settled.idle)
  have stored (history : List Event) (s' : Racing C W) (runs : Runs b table start history s') :
      OnceStored b table start history s' := runs.onceStored keeps settled
  refine ⟨stored history s runs, ?_, ?_, ?_⟩
  · rintro e earlier value rfl found
    obtain ⟨s₁, s₂, before, step, later⟩ := runs.split_append (List.nil_append _).symm
    exact ((before.traced keeps settled).returned keeps before step found).onwards later
  · rintro e earlier rfl found
    exact runs.absence keeps settled found
  · intro client others crowded apart around idle now key
    have proceed := operations_proceed around apart idle few runs stored now key
    refine ⟨?_, proceed⟩
    intro found s' returned
    obtain ⟨since, stage', carried, -⟩ := proceed.1
    rw [returned] at carried
    obtain ⟨⟨e, member, rfl, rfl, same⟩, -⟩ := (carried.answered found rfl).2.returns
    exact ⟨since, stage', carried.runs,
      runs.sourced keeps settled carried.runs (List.mem_of_mem_filter member) same⟩

def furnished : Racing Store.Connection Store :=
  ⟨create (.coarse ⟨.create 2⟩) ⟨[], 0, 1⟩ none, .ofRows [(1, "a")], fun _ => .idle⟩

def overtaken : List Event :=
  [⟨2, 2, .absent⟩, ⟨2, 2, .missed⟩, ⟨0, 1, .filled "a"⟩, ⟨1, 1, .invalidated⟩,
    ⟨1, 1, .upserted "b"⟩, ⟨0, 1, .fetched "a"⟩, ⟨0, 1, .missed⟩]

theorem overtaken_runs : ∃ s, Runs Store.backend Store.peek furnished overtaken s := by
  have built : Cache.build 2 .coarse =
      .ok (.coarse ⟨.create 2⟩ : Cache Int64 String) := rfl
  obtain ⟨wf, empty, within⟩ := Cache.build_wellFormed built
  have working : Store.Working furnished.world := ⟨rfl, rfl⟩
  have rows : furnished.world.peek 1 = some "a" ∧ furnished.world.peek 2 = none := by
    simp [furnished, Store.ofRows, Store.peek]
  obtain ⟨found, service₁, looked₁, missed₁, recached₁, shown₁⟩ :=
    (lookup_ends (s := furnished.service) wf 1).returns fun _ => within.not_full (by decide)
  rw [missed₁, show furnished.service.cache.view 1 = none from empty 1] at looked₁
  have within₁ := recached₁.leaves.counted _ within
  obtain ⟨value, w₁, got₁, reliable₁⟩ := (working.reliable.get ⟨0⟩ 1).returns fun _ => id
  obtain ⟨rfl, rows₁⟩ := Prod.mk.inj ((Store.backend_keeps.get ⟨0⟩ 1 _).of_ok got₁)
  rw [rows.1] at got₁
  obtain ⟨answer, w₂, upserted, reliable₂⟩ := (reliable₁.upsert ⟨1⟩ 1 "b").returns fun _ => id
  obtain ⟨_, rows₂⟩ := Prod.mk.inj ((Store.backend_keeps.upsert ⟨1⟩ 1 "b" w₁).of_ok upserted)
  obtain ⟨service₂, dropped, recached₂, shown₂⟩ :=
    (invalidate_yields recached₁.leaves.wellFormed 1 .write).returns (within₁.not_full (by decide))
  have within₂ := recached₂.leaves.counted _ within₁
  obtain ⟨service₃, filled, recached₃, shown₃⟩ :=
    (fill_yields recached₂.leaves.wellFormed 1 "a").returns (within₂.not_full (by decide))
  have within₃ := recached₃.leaves.counted _ within₂
  obtain ⟨found, service₄, looked₂, missed₂, _⟩ :=
    (lookup_ends recached₃.leaves.wellFormed 2).returns fun _ => within₃.not_full (by decide)
  have other : service₃.cache.view 2 = none := by
    refine Option.eq_none_iff_forall_ne_some.mpr fun value found => ?_
    rcases shown₃ 2 value found with ⟨same, _⟩ | before
    · exact absurd same (by decide)
    · rw [shown₂, shown₁, show furnished.service.cache.view 2 = none from empty 2] at before
      split at before <;> cases before
  rw [missed₂, other] at looked₂
  obtain ⟨value, w₃, got₂, _⟩ := (reliable₂.get ⟨1⟩ 2).returns fun _ => id
  obtain ⟨rfl, _⟩ := Prod.mk.inj ((Store.backend_keeps.get ⟨1⟩ 2 w₂).of_ok got₂)
  rw [rows₂, rows₁, Function.update_of_ne (by decide), rows.2] at got₂
  have runs₁ : Runs Store.backend Store.peek furnished [⟨0, 1, .missed⟩] _ :=
    .step .start (.missed rfl looked₁)
  have runs₂ := runs₁.step (e := ⟨0, 1, .fetched "a"⟩) (.fetched rfl got₁)
  have runs₃ := runs₂.step (e := ⟨1, 1, .upserted "b"⟩) (.upserted rfl upserted)
  have runs₄ := runs₃.step (e := ⟨1, 1, .invalidated⟩) (.invalidated rfl dropped)
  have runs₅ := runs₄.step (e := ⟨0, 1, .filled "a"⟩) (.filled rfl filled)
  have runs₆ := runs₅.step (e := ⟨2, 2, .missed⟩) (.missed rfl looked₂)
  exact ⟨_, runs₆.step (e := ⟨2, 2, .absent⟩) (.absent rfl got₂)⟩

/-- What the reader cached too late was the store's once, and that there is no row the third client
    has from the store. A fourth one may read at any time after that. -/
theorem overtaken_provenance : ∃ s s', Settled Store.peek furnished ∧
    Runs Store.backend Store.peek furnished (overtaken.drop 2) s ∧
    WasStored Store.backend Store.peek furnished (overtaken.drop 2) s 1 "a" ∧
    Runs Store.backend Store.peek furnished overtaken s' ∧
    Absence Store.backend Store.peek furnished ⟨2, 2, .absent⟩ overtaken.tail ∧
    ∀ now found s'',
      read Store.backend.undisturbed now 1 (s'.service, s'.world) = (.ok found, s'') →
      ∃ since stage', Runs Store.backend Store.peek s' since ⟨s''.1, s''.2, stage'⟩ ∧
        Sourced Store.backend Store.peek furnished overtaken s' 3 1 found since
          ⟨s''.1, s''.2, stage'⟩ := by
  have settled : Settled Store.peek furnished :=
    .create (show Cache.build 2 .coarse = .ok _ from rfl) _ _ _
  obtain ⟨s', runs⟩ := overtaken_runs
  obtain ⟨s, _, earlier, _, _⟩ :=
    runs.split_append (show overtaken = [_] ++ ⟨2, 2, .missed⟩ :: overtaken.drop 2 from rfl)
  obtain ⟨_, served, _, _⟩ := provenance Store.backend_keeps settled earlier
  obtain ⟨_, _, absence, reads⟩ := provenance Store.backend_keeps settled runs
  refine ⟨s, s', settled, earlier, served ⟨0, 1, .filled "a"⟩ _ "a" rfl rfl, runs,
    absence ⟨2, 2, .absent⟩ _ rfl rfl, ?_⟩
  have idle : s'.stage 3 = .idle :=
    (runs.stage_of_absent (by decide)).trans (settled.idle 3)
  intro now found s'' returned
  have around : Around Store.backend Store.peek (fun e => e.client ≠ 3) _ :=
    undisturbed_around Store.backend_keeps
  exact (reads 3 _ Store.backend.undisturbed (fun _ other => other) around idle now 1).1 found s''
    returned

end CacheAside.Service
