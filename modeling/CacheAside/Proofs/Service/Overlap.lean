import Mathlib.Data.Set.Finite.Basic
import CacheAside.Proofs.Service.Interleaving

namespace CacheAside.Service

variable {C W α : Type} {b : Backend C W} {table : W → Table} {client : Nat} {key : Int64}
  {stage : Nat → Stage} {others : Event → Prop}

theorem Runs.trans {s s' s'' : Racing C W} {first second : List Event}
    (runs : Runs b table s first s') (onwards : Runs b table s' second s'') :
    Runs b table s (second ++ first) s'' := by
  induction onwards with
  | start => exact runs
  | step _ step ih => exact ih.step step
  | elsewhere _ cache rows ih => exact ih.elsewhere cache rows

theorem Step.stage_of_ne {s s' : Racing C W} {e : Event} (step : Step b s e s')
    (ne : client ≠ e.client) : s'.stage client = s.stage client := by
  cases step <;> exact Racing.move_stage_of_ne ne _ _

theorem Runs.stage_of_absent {s s' : Racing C W} {history : List Event}
    (runs : Runs b table s history s') (absent : ∀ e ∈ history, e.client ≠ client) :
    s'.stage client = s.stage client := by
  induction runs with
  | start => rfl
  | step _ step ih =>
    have before := ih fun e member => absent e (List.mem_cons_of_mem _ member)
    rw [step.stage_of_ne (absent _ List.mem_cons_self).symm, before]
  | elsewhere _ _ _ ih => exact ih absent

/-- All but finitely many clients are between operations. -/
def Few (stage : Nat → Stage) : Prop := {client | stage client ≠ .idle}.Finite

theorem Few.of_idle (idle : ∀ client, stage client = .idle) : Few stage := by
  have nobody : {client | stage client ≠ .idle} = ∅ := by
    simpa [Set.eq_empty_iff_forall_notMem] using idle
  rw [Few, nobody]
  exact Set.finite_empty

theorem Few.update (few : Few stage) (client : Nat) (target : Stage) :
    Few (Function.update stage client target) := by
  apply (few.insert client).subset
  intro other busy
  by_cases same : other = client
  · exact .inl same
  · exact .inr (by simpa [Function.update_of_ne same] using busy)

theorem Runs.few {s s' : Racing C W} {history : List Event} (runs : Runs b table s history s')
    (few : Few s.stage) : Few s'.stage := by
  induction runs with
  | start => exact few
  | step _ step ih => cases step <;> exact ih.update _ _
  | elsewhere _ _ _ ih => exact ih

/-- What goes on while others are at work: they take steps like these. -/
def Aside (b : Backend C W) (table : W → Table) (others : Event → Prop) (s s' : State C W) :
    Prop :=
  ∀ stage, Few stage → ∃ since stage',
    Runs b table ⟨s.1, s.2, stage⟩ since ⟨s'.1, s'.2, stage'⟩ ∧ ∀ e ∈ since, others e

/-- A call that others overlap: the store does its part at one moment of it. -/
def Overlapped (b : Backend C W) (table : W → Table) (others : Event → Prop)
    (call : W → Outcome StoreError α × W) (s : State C W)
    (result : Outcome StoreError α × State C W) : Prop :=
  ∃ s₁ : State C W, Aside b table others s s₁ ∧ result.1 = (call s₁.2).1 ∧
    Aside b table others (s₁.1, (call s₁.2).2) result.2

structure Around (b : Backend C W) (table : W → Table) (others : Event → Prop)
    (crowded : Backend C (State C W)) : Prop where
  connect : ∀ s, Aside b table others s (crowded.connect s).2
  get : ∀ c key s, Overlapped b table others (b.get c key) s (crowded.get c key s)
  upsert : ∀ c key value s,
    Overlapped b table others (b.upsert c key value) s (crowded.upsert c key value s)
  delete : ∀ c key s, Overlapped b table others (b.delete c key) s (crowded.delete c key s)

variable {s s' s'' : State C W}

theorem Aside.elsewhere (cache : s'.1.cache = s.1.cache) (rows : table s'.2 = table s.2) :
    Aside b table others s s' :=
  fun stage _ => ⟨[], stage, Runs.start.elsewhere cache rows, nofun⟩

theorem Aside.refl (s : State C W) : Aside b table others s s := .elsewhere rfl rfl

theorem Aside.trans (first : Aside b table others s s') (second : Aside b table others s' s'') :
    Aside b table others s s'' := by
  intro stage few
  obtain ⟨since, stage', runs, taken⟩ := first stage few
  obtain ⟨later, stage'', runs', taken'⟩ := second stage' (runs.few few)
  exact ⟨later ++ since, stage'', runs.trans runs', List.forall_mem_append.mpr ⟨taken', taken⟩⟩

variable {crowded : Backend C (State C W)} {fewer : Event → Prop}

theorem Aside.weaken (aside : Aside b table fewer s s') (sub : ∀ e, fewer e → others e) :
    Aside b table others s s' := by
  intro stage few
  obtain ⟨since, stage', runs, taken⟩ := aside stage few
  exact ⟨since, stage', runs, fun e member => sub e (taken e member)⟩

theorem Overlapped.weaken {call : W → Outcome StoreError α × W}
    {result : Outcome StoreError α × State C W}
    (overlapped : Overlapped b table fewer call s result) (sub : ∀ e, fewer e → others e) :
    Overlapped b table others call s result := by
  obtain ⟨s₁, before, same, after⟩ := overlapped
  exact ⟨s₁, before.weaken sub, same, after.weaken sub⟩

theorem Around.weaken (around : Around b table fewer crowded) (sub : ∀ e, fewer e → others e) :
    Around b table others crowded where
  connect := fun s => (around.connect s).weaken sub
  get := fun c key s => (around.get c key s).weaken sub
  upsert := fun c key value s => (around.upsert c key value s).weaken sub
  delete := fun c key s => (around.delete c key s).weaken sub

theorem undisturbed_around (keeps : b.Keeps table) : Around b table others b.undisturbed where
  connect := by
    intro s
    have rows : table (b.connect s.2).2 = table s.2 := by
      have connects := keeps.connect s.2
      cases connected : b.connect s.2 with | mk outcome w =>
      rw [connected] at connects
      cases outcome with
      | ok _ | error _ | fault _ => exact connects
      | blocked => exact connects.elim
    exact .elsewhere rfl rows
  get := fun _ _ s => ⟨s, .refl s, rfl, .refl _⟩
  upsert := fun _ _ _ s => ⟨s, .refl s, rfl, .refl _⟩
  delete := fun _ _ s => ⟨s, .refl s, rfl, .refl _⟩

def amid (crowded : Backend C (State C W)) (first last : State C W → State C W) :
    Backend C (State C W) where
  connect s := (crowded.connect (first s)).map id last
  get c key s := (crowded.get c key (first s)).map id last
  upsert c key value s := (crowded.upsert c key value (first s)).map id last
  delete c key s := (crowded.delete c key (first s)).map id last

theorem Overlapped.amid {call : W → Outcome StoreError α × W}
    {result : Outcome StoreError α × State C W}
    (overlapped : Overlapped b table others call s' result) (first : Aside b table others s s')
    (last : Aside b table others result.2 s'') :
    Overlapped b table others call s (result.1, s'') := by
  obtain ⟨s₁, before, same, after⟩ := overlapped
  exact ⟨s₁, first.trans before, same, after.trans last⟩

theorem Around.amid (around : Around b table others crowded) {first last : State C W → State C W}
    (begins : ∀ s, Aside b table others s (first s))
    (ends : ∀ s, Aside b table others s (last s)) :
    Around b table others (amid crowded first last) where
  connect := fun s => ((begins s).trans (around.connect _)).trans (ends _)
  get := fun c key s => (around.get c key _).amid (begins s) (ends _)
  upsert := fun c key value s => (around.upsert c key value _).amid (begins s) (ends _)
  delete := fun c key s => (around.delete c key _).amid (begins s) (ends _)

def own (client : Nat) (history : List Event) : List Event := history.filter (·.client = client)

theorem own_append (first second : List Event) :
    own client (second ++ first) = own client second ++ own client first := List.filter_append ..

theorem own_cons (action : Action) (history : List Event) :
    own client (⟨client, key, action⟩ :: history) =
      ⟨client, key, action⟩ :: own client history :=
  List.filter_cons_of_pos (by simp)

theorem own_of_absent {history : List Event} (absent : ∀ e ∈ history, e.client ≠ client) :
    own client history = [] :=
  List.filter_eq_nil_iff.mpr fun e member => by simpa using absent e member

/-- An operation of a client on a key, or a part of one: it goes through steps of the client and
    what others do meanwhile. Its answer says which steps the client took and where it is then;
    after an error the client is done, and all it did was to look in vain. -/
structure Carried {ε : Type} (b : Backend C W) (table : W → Table) (others : Event → Prop)
    (client : Nat) (key : Int64) (steps : α → List Event → Prop) (lands : α → Stage)
    (s : Racing C W) (since : List Event) (outcome : Outcome ε α) (s' : Racing C W) : Prop where
  runs : Runs b table s since s'
  taken : ∀ e ∈ since, e.client = client ∧ e.key = key ∨ others e
  answered : ∀ a, outcome = .ok a → s'.stage client = lands a ∧ steps a (own client since)
  failed : ∀ e, outcome = .error e → s'.stage client = .idle ∧
    ∀ e ∈ own client since, e.action = .missed ∨ e.action = .failed

def Part {ε : Type} (b : Backend C W) (table : W → Table) (others : Event → Prop) (client : Nat)
    (key : Int64) (steps : α → List Event → Prop) (lands : α → Stage) (stage : Nat → Stage)
    (s : State C W) (result : Outcome ε α × State C W) : Prop :=
  Few stage → ∃ since stage', Carried b table others client key steps lands ⟨s.1, s.2, stage⟩ since
    result.1 ⟨result.2.1, result.2.2, stage'⟩

variable {ε ε' : Type} {origin : Stage} {steps : α → List Event → Prop} {lands : α → Stage}

theorem Part.preceded {result : Outcome ε α × State C W}
    (apart : ∀ e, others e → e.client ≠ client) (aside : Aside b table others s s')
    (part : ∀ stage', stage' client = stage client →
      Part b table others client key steps lands stage' s' result) :
    Part b table others client key steps lands stage s result := by
  intro few
  obtain ⟨first, stage₁, runs, taken⟩ := aside stage few
  have absent : ∀ e ∈ first, e.client ≠ client := fun e member => apart e (taken e member)
  obtain ⟨since, stage', carried⟩ := part stage₁ (runs.stage_of_absent absent) (runs.few few)
  have mine : own client (since ++ first) = own client since := by
    rw [own_append, own_of_absent absent, List.append_nil]
  refine ⟨since ++ first, stage', runs.trans carried.runs, ?_, ?_, ?_⟩
  · exact List.forall_mem_append.mpr ⟨carried.taken, fun e member => .inr (taken e member)⟩
  · rw [mine]
    exact carried.answered
  · rw [mine]
    exact carried.failed

theorem Part.followed {outcome : Outcome ε α} (apart : ∀ e, others e → e.client ≠ client)
    (f : ε → ε') (part : Part b table others client key steps lands stage s (outcome, s'))
    (aside : Aside b table others s' s'') :
    Part b table others client key steps lands stage s (outcome.mapError f, s'') := by
  intro few
  obtain ⟨since, stage₁, carried⟩ := part few
  obtain ⟨later, stage', runs, taken⟩ := aside stage₁ (carried.runs.few few)
  have absent : ∀ e ∈ later, e.client ≠ client := fun e member => apart e (taken e member)
  have kept : stage' client = stage₁ client := runs.stage_of_absent absent
  have mine : own client (later ++ since) = own client since := by
    rw [own_append, own_of_absent absent, List.nil_append]
  refine ⟨later ++ since, stage', carried.runs.trans runs, ?_, ?_, ?_⟩
  · exact List.forall_mem_append.mpr ⟨fun e member => .inr (taken e member), carried.taken⟩
  · intro a answer
    cases outcome with
    | ok a' =>
      cases answer
      obtain ⟨landed, shown⟩ := carried.answered a rfl
      exact ⟨kept.trans landed, mine ▸ shown⟩
    | error _ | fault _ | blocked => cases answer
  · intro e erred
    obtain ⟨e', returned, _⟩ := Outcome.mapError_eq_error erred
    obtain ⟨landed, vain⟩ := carried.failed e' returned
    exact ⟨kept.trans landed, mine ▸ vain⟩

theorem Part.step {outcome : Outcome ε α} {action : Action} {target : Stage} (s' : State C W)
    (step : Step b ⟨s.1, s.2, stage⟩ ⟨client, key, action⟩
      (Racing.move ⟨s'.1, s'.2, stage⟩ client target))
    (answered : ∀ a, outcome = .ok a → target = lands a ∧ steps a [⟨client, key, action⟩])
    (failed : ∀ e, outcome = .error e →
      target = .idle ∧ (action = .missed ∨ action = .failed)) :
    Part b table others client key steps lands stage s (outcome, s') := by
  intro _
  have mine : own client [⟨client, key, action⟩] = [⟨client, key, action⟩] := own_cons action []
  refine ⟨[_], Function.update stage client target, Runs.start.step step, ?_, ?_, ?_⟩
  · exact List.forall_mem_singleton.mpr (.inl ⟨rfl, rfl⟩)
  · intro a same
    obtain ⟨landed, shown⟩ := answered a same
    refine ⟨(Function.update_self ..).trans landed, ?_⟩
    rw [mine]
    exact shown
  · intro e same
    obtain ⟨landed, vain⟩ := failed e same
    refine ⟨(Function.update_self ..).trans landed, ?_⟩
    rw [mine]
    exact List.forall_mem_singleton.mpr vain

/-- A look in vain comes before the rest of an operation. -/
theorem Part.afterMiss {result : Outcome ε α × State C W} {target : Stage} (s' : State C W)
    (step : Step b ⟨s.1, s.2, stage⟩ ⟨client, key, .missed⟩
      (Racing.move ⟨s'.1, s'.2, stage⟩ client target))
    (part : Part b table others client key
      (fun a mine => steps a (mine ++ [⟨client, key, .missed⟩])) lands
      (Function.update stage client target) s' result) :
    Part b table others client key steps lands stage s result := by
  intro few
  obtain ⟨since, stage', carried⟩ := part (few.update client target)
  have mine : own client (since ++ [⟨client, key, .missed⟩]) =
      own client since ++ [⟨client, key, .missed⟩] := by
    rw [own_append, own_cons]
    rfl
  refine ⟨_, stage', (Runs.start.step step).trans carried.runs, ?_, ?_, ?_⟩
  · exact List.forall_mem_append.mpr
      ⟨carried.taken, List.forall_mem_singleton.mpr (.inl ⟨rfl, rfl⟩)⟩
  · rw [mine]
    exact carried.answered
  · intro e erred
    obtain ⟨landed, vain⟩ := carried.failed e erred
    rw [mine]
    exact ⟨landed, List.forall_mem_append.mpr ⟨vain, List.forall_mem_singleton.mpr (.inl rfl)⟩⟩

theorem Carried.unanswered {α' : Type} {s s₁ : Racing C W} {since : List Event}
    {outcome : Outcome ε α} {outcome' : Outcome ε' α'} {steps' : α' → List Event → Prop}
    {lands' : α' → Stage}
    (carried : Carried b table others client key steps lands s since outcome s₁)
    (never : ∀ a, outcome' ≠ .ok a) (erred : ∀ e, outcome' = .error e → ∃ e', outcome = .error e') :
    Carried b table others client key steps' lands' s since outcome' s₁ where
  runs := carried.runs
  taken := carried.taken
  answered := fun a same => absurd same (never a)
  failed := by
    intro e same
    obtain ⟨e', failed⟩ := erred e same
    exact carried.failed e' failed

/-- The last step of an operation comes after a part that was answered. -/
theorem Carried.last {s s₁ : Racing C W} {since : List Event} {outcome : Outcome ε α}
    (carried : Carried b table others client key steps lands s since outcome s₁)
    {action : Action} {target : Racing C W} {a : α} (answered : outcome = .ok a)
    (step : Step b s₁ ⟨client, key, action⟩ target) (idle : target.stage client = .idle)
    {steps' : α → List Event → Prop}
    (shows : ∀ mine, steps a mine → steps' a (⟨client, key, action⟩ :: mine)) :
    Carried b table others client key steps' (fun _ => .idle) s
      (⟨client, key, action⟩ :: since) outcome target where
  runs := carried.runs.step step
  taken := List.forall_mem_cons.mpr ⟨.inl ⟨rfl, rfl⟩, carried.taken⟩
  answered := by
    rintro a' same
    cases answered.symm.trans same
    rw [own_cons]
    exact ⟨idle, shows _ (carried.answered a answered).2⟩
  failed := by
    intro e same
    cases answered.symm.trans same

theorem Overlapped.part {call : W → Outcome StoreError α × W}
    {result : Outcome StoreError α × State C W} {action : α → Action}
    (apart : ∀ e, others e → e.client ≠ client)
    (overlapped : Overlapped b table others call s result) (here : stage client = origin)
    (answers : ∀ (s : Racing C W) a w, s.stage client = origin → call s.world = (.ok a, w) →
      Step b s ⟨client, key, action a⟩ ({ s with world := w }.move client (lands a)))
    (fails : ∀ (s : Racing C W) o w, s.stage client = origin → call s.world = (o, w) →
      (∀ a, o ≠ .ok a) →
        Step b s ⟨client, key, .failed⟩ ({ s with world := w }.move client .idle)) :
    Part b table others client key (fun a mine => mine = [⟨client, key, action a⟩]) lands stage s
      result := by
  obtain ⟨s₁, first, same, last⟩ := overlapped
  obtain ⟨outcome, s'⟩ := result
  subst same
  apply Part.preceded apart first
  intro stage₁ kept
  have here₁ := kept.trans here
  -- What others do before and after is no step of the client's, so one step is left in between.
  suffices part : Part b table others client key (fun a mine => mine = [⟨client, key, action a⟩])
      lands stage₁ s₁ ((call s₁.2).1, (s₁.1, (call s₁.2).2)) by
    simpa using part.followed apart id last
  cases called : call s₁.2 with | mk outcome w =>
  cases outcome with
  | ok a =>
    have step := answers ⟨s₁.1, s₁.2, stage₁⟩ a w here₁ called
    exact Part.step (s₁.1, w) step (fun a' same => by cases same; exact ⟨rfl, rfl⟩) nofun
  | error _ | fault _ | blocked =>
    have step := fails ⟨s₁.1, s₁.2, stage₁⟩ _ w here₁ called nofun
    exact Part.step (s₁.1, w) step nofun fun _ _ => ⟨rfl, .inr rfl⟩

/-- To others an operation of somebody is only that they are joined in their steps by one more. -/
theorem Part.aside {result : Outcome ε α × State C W} {steps : Nat → α → List Event → Prop}
    (joining : {client | ∀ e : Event, e.client = client → e.key = key → others e}.Infinite)
    (parts : ∀ client stage, stage client = .idle →
      Part b table (fun e => others e ∧ e.client ≠ client) client key (steps client) lands stage s
        result) :
    Aside b table others s result.2 := by
  intro stage few
  -- Only finitely many are busy, so there is somebody to carry the operation out.
  obtain ⟨client, allowed, free⟩ := joining.exists_notMem_finite few
  have idle : stage client = .idle := not_not.mp free
  obtain ⟨since, stage', carried⟩ := parts client stage idle few
  refine ⟨since, stage', carried.runs, ?_⟩
  intro e member
  rcases carried.taken e member with ⟨mine, here⟩ | ⟨other, -⟩
  · exact allowed e mine here
  · exact other

end CacheAside.Service
