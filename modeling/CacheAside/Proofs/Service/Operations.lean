import CacheAside.Proofs.Pool.Balance
import CacheAside.Proofs.Service.Overlap

namespace CacheAside.Service

inductive Operation where
  | read (key : Int64)
  | write (key : Int64) (value : String)
  | delete (key : Int64)

namespace Operation

def key : Operation → Int64
  | read key | write key _ | delete key => key

def run {C W : Type} (crowded : Backend C (State C W)) (now : Instant) (s : State C W) :
    Operation → State C W
  | read key => (Service.read crowded now key s).2
  | write key value => (Service.write crowded now key value s).2
  | delete key => (Service.delete crowded now key s).2

def runAll {C W : Type} (crowded : Backend C (State C W)) (now : Instant) (ops : List Operation)
    (s : State C W) : State C W := ops.foldl (run crowded now) s

end Operation

variable {C W α ε : Type} {b : Backend C W} {table : W → Table} {others : Event → Prop}
  {client : Nat} {stage : Nat → Stage} {origin : Stage} {steps : α → List Event → Prop}
  {lands : α → Stage} {key : Int64} {s : State C W} {crowded : Backend C (State C W)}
  {now : Instant}

theorem complete_aside (connects : ∀ s, Aside b table others s (crowded.connect s).2)
    (checkedOut : Checkout C) (p : Pool C) (s : State C W) :
    Aside b table others s
      (Pool.complete (openConnection crowded) checkedOut (p, s)).2.2 := by
  cases checkedOut with
  | idle connection => exact .refl s
  | opening =>
    simp only [Pool.complete, Pool.settle_snd, openConnection]
    have lent : Aside b table others s ({ s.1 with pool := p }, s.2) := .elsewhere rfl rfl
    exact lent.trans (connects _)

theorem acquire_aside (connects : ∀ s, Aside b table others s (crowded.connect s).2)
    (s : State C W) : Aside b table others s (acquire crowded now s).2 := by
  have completes := complete_aside connects
  unfold acquire
  split
  · simp only [onPool, Pool.acquire]
    split
    · exact .elsewhere rfl rfl
    · exact (completes _ _ s).trans (.elsewhere rfl rfl)
  · simp only [onPool, Pool.acquireWithin]
    split
    · exact .elsewhere rfl rfl
    · split
      · exact .elsewhere rfl rfl
      · exact (completes _ _ s).trans (.elsewhere rfl rfl)

/-- A call on a pooled connection is a part if it is one on any connection, and if nothing more can
    happen to an operation that got none. -/
theorem withConnection_part (around : Around b table others crowded)
    (apart : ∀ e, others e → e.client ≠ client)
    {call : C → State C W → Outcome StoreError α × State C W} (here : stage client = origin)
    (calls : ∀ c s stage, stage client = origin →
      Part b table others client key steps lands stage s (call c s))
    (refused : origin = .idle ∨ ∀ s : Racing C W, s.stage client = origin →
      Step b s ⟨client, key, .failed⟩ (s.move client .idle)) (s : State C W) :
    Part b table others client key steps lands stage s (withConnection crowded now call s) := by
  have waits : Aside b table others s (acquire crowded now s).2 := acquire_aside around.connect s
  apply Part.preceded apart waits
  intro stage₁ kept
  have here₁ := kept.trans here
  unfold withConnection
  cases acquired : acquire crowded now s with | mk outcome s₁ =>
  cases outcome with
  | ok c =>
    have part := calls c s₁ stage₁ here₁
    cases called : call c s₁ with | mk answer s₂ =>
    rw [called] at part
    simp only [called]
    cases answer with
    | ok _ | error _ | fault _ => exact part.followed apart ServiceError.store (.elsewhere rfl rfl)
    | blocked => exact part.followed apart ServiceError.store (.refl _)
  | error e =>
    rcases refused with idle | refused
    · intro _
      refine ⟨[], stage₁, Runs.start.elsewhere rfl rfl, nofun, nofun, ?_⟩
      exact fun _ _ => ⟨here₁.trans idle, nofun⟩
    · have step := refused ⟨s₁.1, s₁.2, stage₁⟩ here₁
      have part : Part (ε := ServiceError) b table others client key steps lands stage₁ s₁
          (.error e, s₁) := Part.step s₁ step nofun fun _ _ => ⟨rfl, .inr rfl⟩
      exact part.followed apart id (.elsewhere rfl rfl)
  | fault _ | blocked =>
    intro _
    exact ⟨[], stage₁, .start, nofun, nofun, nofun⟩

theorem lookup_faulted {s service : Service C} {outcome : Outcome ServiceError (Option String)}
    (looked : s.lookup key = (outcome, service)) (faulted : ∀ found, outcome ≠ .ok found) :
    service.cache = s.cache ∧ ∀ e, outcome ≠ .error e := by
  simp only [lookup] at looked
  split at looked
  · cases looked
    exact ⟨rfl, nofun⟩
  · cases looked
    exact absurd rfl (faulted none)
  · cases looked
    exact absurd rfl (faulted (some _))

/-- The steps that a read takes itself, by what it returns, the newest first. -/
inductive ReadSteps (client : Nat) (key : Int64) : Option String → List Event → Prop
  | hit (value : String) : ReadSteps client key (some value) [⟨client, key, .hit value⟩]
  | fetched (value : String) : ReadSteps client key (some value)
      [⟨client, key, .filled value⟩, ⟨client, key, .fetched value⟩, ⟨client, key, .missed⟩]
  | absent : ReadSteps client key none [⟨client, key, .absent⟩, ⟨client, key, .missed⟩]

def ChangeSteps (client : Nat) (key : Int64) (action : Action) (_ : α) (mine : List Event) : Prop :=
  mine = [⟨client, key, .invalidated⟩, ⟨client, key, action⟩]

theorem ReadSteps.returns {found : Option String} {mine : List Event}
    (steps : ReadSteps client key found mine) :
    (∃ e ∈ mine, e.client = client ∧ e.key = key ∧ e.action.found = some found) ∧
      ∀ e ∈ mine, e.action.changes = false := by
  cases steps with
  | hit value => exact ⟨⟨_, List.mem_cons_self, rfl, rfl, rfl⟩, by simp [Action.changes]⟩
  | fetched value => exact ⟨⟨_, List.mem_cons_self, rfl, rfl, rfl⟩, by simp [Action.changes]⟩
  | absent => exact ⟨⟨_, List.mem_cons_self, rfl, rfl, rfl⟩, by simp [Action.changes]⟩

def Action.ofAnswer : Option String → Action
  | some value => .fetched value
  | none => .absent

def Stage.ofAnswer (key : Int64) : Option String → Stage
  | some value => .fetched key value
  | none => .idle

theorem fetch_part (around : Around b table others crowded)
    (apart : ∀ e, others e → e.client ≠ client) (here : stage client = .missed key)
    (s : State C W) :
    Part b table others client key (fun found mine => mine = [⟨client, key, .ofAnswer found⟩])
      (Stage.ofAnswer key) stage s (withConnection crowded now
        (fun c s => crowded.get c key (s.1.record .storeRead, s.2)) s) := by
  apply withConnection_part around apart here
  · intro c s stage here
    have counted : Aside b table others s (s.1.record .storeRead, s.2) := .elsewhere rfl rfl
    apply Part.preceded apart counted
    intro stage₁ kept
    apply (around.get c key _).part apart (kept.trans here)
    · intro s found _ waiting called
      cases found with
      | none => exact .absent waiting called
      | some value => exact .fetched waiting called
    · exact fun s _ _ waiting called failed => .getFailed waiting called failed
  · exact .inr fun s waiting => .refused waiting

theorem fill_part {fetched : Outcome ServiceError (Option String) × State C W}
    (part : Part b table others client key
      (fun found mine => mine = [⟨client, key, .ofAnswer found⟩]) (Stage.ofAnswer key) stage s
      fetched) :
    Part b table others client key
      (fun found mine => ReadSteps client key found (mine ++ [⟨client, key, .missed⟩]))
      (fun _ => .idle) stage s
      (match fetched with
        | (.ok (some value), (service, world)) =>
          match service.fill key value with
          | .ok service => (.ok (some value), (service, world))
          | .error fault => (.fault fault, (service, world))
        | (fetched, s) => (fetched, s)) := by
  intro few
  obtain ⟨outcome, s₁⟩ := fetched
  obtain ⟨since, stage₁, carried⟩ := part few
  cases outcome with
  | ok found =>
    obtain ⟨here, shown⟩ := carried.answered found rfl
    cases found with
    | none =>
      refine ⟨since, stage₁, carried.runs, carried.taken, ?_, nofun⟩
      rintro found ⟨⟩
      rw [shown]
      exact ⟨here, .absent⟩
    | some value =>
      cases filled : s₁.1.fill key value with
      | ok service =>
        have step : Step b ⟨s₁.1, s₁.2, stage₁⟩ ⟨client, key, .filled value⟩ _ :=
          .filled here filled
        simp only [filled]
        refine ⟨_, _, carried.last rfl step (Function.update_self ..) ?_⟩
        rintro mine rfl
        exact .fetched value
      | error fault =>
        simp only [filled]
        exact ⟨since, stage₁, carried.unanswered nofun nofun⟩
  | error e => exact ⟨since, stage₁, carried.unanswered nofun fun _ _ => ⟨e, rfl⟩⟩
  | fault _ | blocked => exact ⟨since, stage₁, carried.unanswered nofun nofun⟩

theorem read_part (around : Around b table others crowded)
    (apart : ∀ e, others e → e.client ≠ client) (here : stage client = .idle) (key : Int64)
    (s : State C W) :
    Part b table others client key (ReadSteps client key) (fun _ => .idle) stage s
      (read crowded now key s) := by
  unfold read
  cases looked : s.1.lookup key with | mk outcome service =>
  cases outcome with
  | error _ | fault _ | blocked =>
    obtain ⟨same, never⟩ := lookup_faulted looked nofun
    intro _
    refine ⟨[], stage, Runs.start.elsewhere same rfl, nofun, nofun, ?_⟩
    intro e failed
    exact absurd failed (never e)
  | ok found =>
    cases found with
    | some value =>
      have step : Step b ⟨s.1, s.2, stage⟩ ⟨client, key, .hit value⟩ _ := .hit here looked
      apply Part.step (service, s.2) step
      · rintro found ⟨⟩
        exact ⟨rfl, .hit value⟩
      · nofun
    | none =>
      have missed : Step b ⟨s.1, s.2, stage⟩ ⟨client, key, .missed⟩ _ := .missed here looked
      apply Part.afterMiss (service, s.2) missed
      exact fill_part (fetch_part around apart (Function.update_self ..) _)

theorem thenInvalidate_part {event : ServiceEvent} {action : Action}
    {changed : Outcome ServiceError α × State C W}
    (part : Part b table others client key (fun _ mine => mine = [⟨client, key, action⟩])
      (fun _ => .changed key event) stage s changed) :
    Part b table others client key (ChangeSteps client key action) (fun _ => .idle) stage s
      (thenInvalidate key event changed) := by
  intro few
  obtain ⟨outcome, s₁⟩ := changed
  obtain ⟨since, stage₁, carried⟩ := part few
  cases outcome with
  | ok a =>
    unfold thenInvalidate
    cases dropped : s₁.1.invalidate key event with
    | ok service =>
      have step : Step b ⟨s₁.1, s₁.2, stage₁⟩ ⟨client, key, .invalidated⟩ _ :=
        .invalidated (carried.answered a rfl).1 dropped
      simp only [dropped]
      refine ⟨_, _, carried.last rfl step (Function.update_self ..) ?_⟩
      rintro mine rfl
      rfl
    | error fault =>
      simp only [dropped]
      exact ⟨since, stage₁, carried.unanswered nofun nofun⟩
  | error e => exact ⟨since, stage₁, carried.unanswered nofun fun _ _ => ⟨e, rfl⟩⟩
  | fault _ | blocked => exact ⟨since, stage₁, carried.unanswered nofun nofun⟩

theorem write_part (around : Around b table others crowded)
    (apart : ∀ e, others e → e.client ≠ client) (here : stage client = .idle) (key : Int64)
    (value : String) (s : State C W) :
    Part b table others client key (ChangeSteps client key (.upserted value)) (fun _ => .idle)
      stage s (write crowded now key value s) := by
  apply thenInvalidate_part
  apply withConnection_part around apart here
  · intro c s stage here
    apply (around.upsert c key value s).part apart here
    · exact fun s _ _ idle called => .upserted idle called
    · exact fun s _ _ idle called failed => .upsertFailed idle called failed
  · exact .inl rfl

theorem delete_part (around : Around b table others crowded)
    (apart : ∀ e, others e → e.client ≠ client) (here : stage client = .idle) (key : Int64)
    (s : State C W) :
    Part b table others client key (ChangeSteps client key .deleted) (fun _ => .idle) stage s
      (delete crowded now key s) := by
  have part : Part b table others client key (ChangeSteps client key .deleted) (fun _ => .idle)
      stage s (thenInvalidate key .delete (withConnection crowded now
        (fun connection s => crowded.delete connection key s) s)) := by
    apply thenInvalidate_part
    apply withConnection_part around apart here
    · intro c s stage here
      apply (around.delete c key s).part apart here
      · exact fun s _ _ idle called => .deleted idle called
      · exact fun s _ _ idle called failed => .deleteFailed idle called failed
    · exact .inl rfl
  unfold delete
  intro few
  cases deleted : thenInvalidate key .delete (withConnection crowded now
      (fun connection s => crowded.delete connection key s) s) with
  | mk outcome s' =>
  rw [deleted] at part
  obtain ⟨since, stage', carried⟩ := part few
  cases outcome with
  | ok existed =>
    have answered := carried.answered existed rfl
    exact ⟨since, stage', carried.runs, carried.taken, fun _ _ => answered, nofun⟩
  | error e => exact ⟨since, stage', carried.unanswered nofun fun _ _ => ⟨e, rfl⟩⟩
  | fault _ | blocked => exact ⟨since, stage', carried.unanswered nofun nofun⟩

/-- A run goes on with an operation of a client, after which `after` holds. -/
def Proceeds (b : Backend C W) (table : W → Table) (others : Event → Prop) (client : Nat)
    (key : Int64) (steps : α → List Event → Prop) (start : Racing C W) (history : List Event)
    (s : Racing C W) (after : List Event → Racing C W → Prop)
    (result : Outcome ε α × State C W) : Prop :=
  ∃ since stage', Carried b table others client key steps (fun _ => .idle) s since result.1
      ⟨result.2.1, result.2.2, stage'⟩ ∧
    Runs b table start (since ++ history) ⟨result.2.1, result.2.2, stage'⟩ ∧
    after (since ++ history) ⟨result.2.1, result.2.2, stage'⟩

theorem Part.proceeds {start s : Racing C W} {history : List Event}
    {after : List Event → Racing C W → Prop} {result : Outcome ε α × State C W}
    (part : Part b table others client key steps (fun _ => .idle) s.stage (s.service, s.world)
      result)
    (few : Few s.stage) (runs : Runs b table start history s)
    (holds : ∀ history s', Runs b table start history s' → after history s') :
    Proceeds b table others client key steps start history s after result := by
  obtain ⟨since, stage', carried⟩ := part few
  have onwards := runs.trans carried.runs
  exact ⟨since, stage', carried, onwards, holds _ _ onwards⟩

theorem operations_proceed {start s : Racing C W} {history : List Event}
    {after : List Event → Racing C W → Prop} (around : Around b table others crowded)
    (apart : ∀ e, others e → e.client ≠ client) (idle : s.stage client = .idle)
    (few : Few s.stage) (runs : Runs b table start history s)
    (holds : ∀ history s', Runs b table start history s' → after history s') (now : Instant)
    (key : Int64) :
    Proceeds b table others client key (ReadSteps client key) start history s after
        (read crowded now key (s.service, s.world)) ∧
      (∀ value, Proceeds b table others client key (ChangeSteps client key (.upserted value)) start
        history s after (write crowded now key value (s.service, s.world))) ∧
      Proceeds b table others client key (ChangeSteps client key .deleted) start history s after
        (delete crowded now key (s.service, s.world)) := by
  refine ⟨?_, fun value => ?_, ?_⟩
  · exact (read_part around apart idle key _).proceeds few runs holds
  · exact (write_part around apart idle key value _).proceeds few runs holds
  · exact (delete_part around apart idle key _).proceeds few runs holds

namespace Operation

theorem aside (around : ∀ client, Around b table (fun e => others e ∧ e.client ≠ client) crowded)
    (op : Operation)
    (joining : {client | ∀ e : Event, e.client = client → e.key = op.key → others e}.Infinite)
    (s : State C W) : Aside b table others s (op.run crowded now s) := by
  cases op with
  | read key =>
    exact Part.aside joining fun client _ idle =>
      read_part (around client) (fun _ other => other.2) idle key s
  | write key value =>
    exact Part.aside joining fun client _ idle =>
      write_part (around client) (fun _ other => other.2) idle key value s
  | delete key =>
    exact Part.aside joining fun client _ idle =>
      delete_part (around client) (fun _ other => other.2) idle key s

theorem runAll_aside
    (around : ∀ client, Around b table (fun e => others e ∧ e.client ≠ client) crowded)
    (ops : List Operation)
    (joining : ∀ op ∈ ops,
      {client | ∀ e : Event, e.client = client → e.key = op.key → others e}.Infinite)
    (s : State C W) : Aside b table others s (runAll crowded now ops s) := by
  induction ops generalizing s with
  | nil => exact .refl s
  | cons op ops ih =>
    obtain ⟨first, rest⟩ := List.forall_mem_cons.mp joining
    exact (op.aside around first s).trans (ih rest _)

end Operation

end CacheAside.Service
