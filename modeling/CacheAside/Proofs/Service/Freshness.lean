import Mathlib.Data.Set.Finite.Lattice
import CacheAside.Proofs.Service.Operations
import CacheAside.Proofs.Service.Staleness

namespace CacheAside.Service

variable {C W : Type} {b : Backend C W} {table : W → Table} {start s : Racing C W}
  {history : List Event} {others : Event → Prop} {client : Nat} {key : Int64}
  {crowded : Backend C (State C W)} {now : Instant}

/-- The cache has nothing for a key or what the store holds for it now, so that no lookup of the key
    serves a stale value. -/
structure Fresh (table : W → Table) (s : Racing C W) (key : Int64) : Prop where
  cached : ∃ shown, s.service.cache.peek key = .ok shown ∧
    ∀ value, shown = some value → table s.world key = some value
  served : ∀ value service, s.service.lookup key = (.ok (some value), service) →
    table s.world key = some value

def FreshUnraced (table : W → Table) (history : List Event) (s : Racing C W) : Prop :=
  ∀ key, ¬ Raced key history → (∀ client event, s.stage client ≠ .changed key event) →
    Fresh table s key

theorem Runs.freshUnraced (keeps : b.Keeps table) (settled : Settled table start)
    (runs : Runs b table start history s) : FreshUnraced table history s := by
  have tracked := runs.tracked keeps settled
  intro key clean told
  have fresh : ∀ value, s.service.cache.view key = some value → table s.world key = some value := by
    rcases tracked.current key clean with ⟨client, event, changed⟩ | fresh
    · exact absurd changed (told client event)
    · exact fresh
  refine ⟨⟨_, tracked.wellFormed.peek key, fresh⟩, ?_⟩
  intro value service looked
  exact fresh value ((lookup_ends tracked.wellFormed key).of_ok looked).1.symm

/-- While others are at other keys, a read leaves its key to the client, and so it returns what was
    left there before it began. -/
theorem Carried.read_own {ε : Type} {since : List Event} {outcome : Outcome ε (Option String)}
    {s' : Racing C W} (keeps : b.Keeps table) (settled : Settled table start)
    (runs : Runs b table start history s)
    (carried : Carried b table others client key (ReadSteps client key) (fun _ => .idle) s since
      outcome s')
    (apart : ∀ e, others e → e.key ≠ key) (alone : ∀ e ∈ history, e.key = key → e.client = client)
    {found : Option String} (returned : outcome = .ok found) :
    found = left key (table start.world key) history := by
  obtain ⟨⟨e, member, rfl, rfl, shown⟩, quiet⟩ := (carried.answered found returned).2.returns
  obtain ⟨after, before, s₁, s₂, rfl, earlier, step, -⟩ :=
    carried.runs.split (List.mem_of_mem_filter member)
  -- Until the read returned, only the client itself was at the key, and a read changes nothing.
  have mine : ∀ e' ∈ before, e'.key = e.key → e'.client = e.client := by
    intro e' here same
    rcases carried.taken e' (by simp [here]) with ⟨self, -⟩ | other
    · exact self
    · exact absurd same (apart e' other)
  have unchanged : ∀ e' ∈ before, ¬ e'.Changes e.key := by
    rintro e' here ⟨same, changes⟩
    have self : e' ∈ own e.client (after ++ e :: before) :=
      List.mem_filter.mpr ⟨by simp [here], by simpa using mine e' here same⟩
    rw [quiet e' self] at changes
    cases changes
  have sofar := runs.trans earlier
  have latest := (sofar.tracked keeps settled).returns keeps step shown
    (List.forall_mem_append.mpr ⟨mine, alone⟩)
  rw [latest, left, List.foldr_append]
  exact left_of_unchanged unchanged

/-- Stale values in the cache need a race. And a client that has a key to itself reads what it left
    there, whatever happens to other keys. The operations take the steps that this is said of, one
    in the store and one in the cache for each change, whatever others do meanwhile; and others may
    carry out whole operations meanwhile. -/
theorem fresh_unless_raced (keeps : b.Keeps table) (settled : Settled table start)
    (runs : Runs b table start history s) :
    (∀ key, ¬ Raced key history → (∀ client event, s.stage client ≠ .changed key event) →
      Fresh table s key) ∧
    (∀ e earlier result, history = e :: earlier → e.action.found = some result →
      (∀ e' ∈ earlier, e'.key = e.key → e'.client = e.client) →
      result = left e.key (table start.world e.key) earlier) ∧
    (∀ client others crowded, (∀ e, others e → e.client ≠ client) →
      Around b table others crowded → s.stage client = .idle → ∀ now key,
      Proceeds b table others client key (ReadSteps client key) start history s
        (FreshUnraced table) (read crowded now key (s.service, s.world)) ∧
      (∀ value, Proceeds b table others client key (ChangeSteps client key (.upserted value)) start
        history s (FreshUnraced table) (write crowded now key value (s.service, s.world))) ∧
      Proceeds b table others client key (ChangeSteps client key .deleted) start history s
        (FreshUnraced table) (delete crowded now key (s.service, s.world)) ∧
      ((∀ e, others e → e.key ≠ key) → (∀ e ∈ history, e.key = key → e.client = client) →
        ∀ found, (read crowded now key (s.service, s.world)).1 = .ok found →
          found = left key (table start.world key) history)) ∧
    ∀ others crowded now before after,
      (∀ client, Around b table (fun e => others e ∧ e.client ≠ client) crowded) →
      (∀ op ∈ before ++ after,
        {client | ∀ e : Event, e.client = client → e.key = op.key → others e}.Infinite) →
      Around b table others (amid crowded (Operation.runAll crowded now before)
        (Operation.runAll crowded now after)) := by
  have few := runs.few (.of_idle settled.idle)
  have fresh (history : List Event) (s' : Racing C W) (runs : Runs b table start history s') :
      FreshUnraced table history s' := runs.freshUnraced keeps settled
  refine ⟨fresh history s runs,
    fun e earlier result last found alone => runs.returns keeps settled last found alone, ?_, ?_⟩
  · intro client others crowded apart around idle now key
    obtain ⟨reads, writes, deletes⟩ :=
      operations_proceed around apart idle few runs fresh now key
    refine ⟨reads, writes, deletes, ?_⟩
    intro elsewhere alone found returned
    obtain ⟨since, stage', carried, -⟩ := reads
    exact carried.read_own keeps settled runs elsewhere alone returned
  · intro others crowded now before after around joining
    obtain ⟨first, last⟩ := List.forall_mem_append.mp joining
    exact ((around 0).weaken fun _ => And.left).amid (Operation.runAll_aside around before first)
      (Operation.runAll_aside around after last)

def unused : Racing Store.Connection Store :=
  ⟨create (.coarse ⟨.create 2⟩) ⟨[], 0, 1⟩ none, {}, fun _ => .idle⟩

theorem unused_settled : Settled Store.peek unused :=
  .create (show Cache.build 2 .coarse = .ok _ from rfl) _ _ _

def readBack : List Event :=
  [⟨0, 1, .filled "a"⟩, ⟨0, 1, .fetched "a"⟩, ⟨0, 1, .missed⟩, ⟨0, 1, .invalidated⟩,
    ⟨1, 2, .missed⟩, ⟨0, 1, .upserted "a"⟩]

theorem readBack_runs : ∃ s, Runs Store.backend Store.peek unused readBack s ∧
    s.stage 0 = .idle ∧ ∀ client event, s.stage client ≠ .changed 1 event := by
  have built : Cache.build 2 .coarse =
      .ok (.coarse ⟨.create 2⟩ : Cache Int64 String) := rfl
  obtain ⟨wf, empty, within⟩ := Cache.build_wellFormed built
  have working : Store.Working {} := ⟨rfl, rfl⟩
  obtain ⟨answer, w₁, upserted, reliable⟩ :=
    (working.reliable.upsert ⟨0⟩ 1 "a").returns fun _ => id
  have row : w₁.peek 1 = some "a" := by
    obtain ⟨_, rows⟩ := Prod.mk.inj ((Store.backend_keeps.upsert ⟨0⟩ 1 "a" {}).of_ok upserted)
    rw [rows, Function.update_self]
  obtain ⟨found, service₁, looked₁, missed, recached₁, _⟩ :=
    (lookup_ends (s := unused.service) wf 2).returns fun _ => within.not_full fun _ _ => by decide
  rw [missed, show unused.service.cache.view 2 = none from empty 2] at looked₁
  have within₁ := recached₁.leaves.counted _ within
  obtain ⟨service₂, dropped, recached₂, gone⟩ :=
    (invalidate_yields recached₁.leaves.wellFormed 1 .write).returns (within₁.not_full (by decide))
  have within₂ := recached₂.leaves.counted _ within₁
  obtain ⟨found, service₃, looked₃, missed, recached₃, _⟩ :=
    (lookup_ends recached₂.leaves.wellFormed 1).returns fun _ => within₂.not_full (by decide)
  rw [missed, gone 1, if_pos BEq.rfl] at looked₃
  have within₃ := recached₃.leaves.counted _ within₂
  obtain ⟨value, w₂, got, _⟩ := (reliable.get ⟨0⟩ 1).returns fun _ => id
  obtain ⟨rfl, _⟩ := Prod.mk.inj ((Store.backend_keeps.get ⟨0⟩ 1 w₁).of_ok got)
  rw [row] at got
  obtain ⟨service₄, filled, _⟩ :=
    (fill_yields recached₃.leaves.wellFormed 1 "a").returns (within₃.not_full (by decide))
  have runs₁ : Runs Store.backend Store.peek unused [⟨0, 1, .upserted "a"⟩] _ :=
    .step .start (.upserted rfl upserted)
  have runs₂ := runs₁.step (e := ⟨1, 2, .missed⟩) (.missed rfl looked₁)
  have runs₃ := runs₂.step (e := ⟨0, 1, .invalidated⟩) (.invalidated rfl dropped)
  have runs₄ := runs₃.step (e := ⟨0, 1, .missed⟩) (.missed rfl looked₃)
  have runs₅ := runs₄.step (e := ⟨0, 1, .fetched "a"⟩) (.fetched rfl got)
  have runs₆ := runs₅.step (e := ⟨0, 1, .filled "a"⟩) (.filled rfl filled)
  refine ⟨_, runs₆, Racing.move_stage_self .., ?_⟩
  intro client event
  simp only [Racing.move, Function.update_apply]
  split_ifs
  all_goals
    intro same
    cases same

def atSecondKey (e : Event) : Prop := e.client ≠ 0 ∧ e.key = 2

def busy (now : Instant) : Backend Store.Connection (State Store.Connection Store) :=
  amid Store.backend.undisturbed
    (Operation.runAll Store.backend.undisturbed now [.write 2 "b"])
    (Operation.runAll Store.backend.undisturbed now [])

/-- The first client reads the key back once more while others write the second one, and changes it
    then. -/
theorem readBack_fresh : ∃ s, Settled Store.peek unused ∧
    Runs Store.backend Store.peek unused readBack s ∧ Fresh Store.peek s 1 ∧
      some "a" = left 1 (unused.world.peek 1) readBack.tail ∧
      ∀ now, Around Store.backend Store.peek atSecondKey (busy now) ∧
        (∀ found, (read (busy now) now 1 (s.service, s.world)).1 = .ok found → found = some "a") ∧
        Proceeds Store.backend Store.peek atSecondKey 0 1 (ChangeSteps 0 1 (.upserted "c")) unused
          readBack s (FreshUnraced Store.peek)
          (write (busy now) now 1 "c" (s.service, s.world)) := by
  obtain ⟨s, runs, idle, told⟩ := readBack_runs
  obtain ⟨fresh, returns, operations, nested⟩ :=
    fresh_unless_raced Store.backend_keeps unused_settled runs
  have alone : ∀ e ∈ readBack, e.key = 1 → e.client = 0 := by decide
  refine ⟨s, unused_settled, runs, fresh 1 (not_raced_of_alone alone) told, ?_, fun now => ?_⟩
  · exact returns ⟨0, 1, .filled "a"⟩ readBack.tail (some "a") rfl rfl
      fun e member => alone e (List.mem_cons_of_mem _ member)
  have joining :
      {client | ∀ e : Event, e.client = client → e.key = 2 → atSecondKey e}.Infinite := by
    refine (Set.finite_singleton 0).infinite_compl.mono ?_
    rintro client nonzero e rfl key
    exact ⟨nonzero, key⟩
  have around : Around Store.backend Store.peek atSecondKey (busy now) :=
    nested atSecondKey _ now [.write 2 "b"] [] (fun _ => undisturbed_around Store.backend_keeps)
      (List.forall_mem_singleton.mpr joining)
  obtain ⟨-, writes, -, reads⟩ :=
    operations 0 atSecondKey (busy now) (fun _ => And.left) around idle now 1
  refine ⟨around, fun found returned => ?_, writes "c"⟩
  have other : ∀ e, atSecondKey e → e.key ≠ 1 := by
    rintro e ⟨-, key⟩
    rw [key]
    decide
  exact reads other alone found returned

end CacheAside.Service
