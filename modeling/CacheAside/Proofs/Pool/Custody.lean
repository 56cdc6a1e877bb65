import Mathlib.Algebra.Order.Group.Multiset
import Mathlib.Tactic.Abel
import CacheAside.Proofs.Pool.Failure

namespace CacheAside.Pool

variable {C : Type}

def Caller.connection? : Caller C → Option C
  | holding connection => some connection
  | _ => none

def Caller.connections (callers : Multiset (Caller C)) : Multiset C :=
  callers.filterMap Caller.connection?

theorem Caller.connections_cons (caller : Caller C) (rest : Multiset (Caller C)) :
    connections (caller ::ₘ rest) =
      (caller.connection?.toList : Multiset C) + connections rest := by
  rw [connections, Multiset.filterMap_cons]
  cases caller.connection? <;> rfl

def Event.opened? : Event C → Option C
  | opened connection => some connection
  | _ => none

def Event.detached? : Event C → Option C
  | detached connection => some connection
  | _ => none

def opened (history : List (Event C)) : List C := history.filterMap Event.opened?

def detached (history : List (Event C)) : List C := history.filterMap Event.detached?

inductive Place where
  | queue
  | guard
  | outside
  deriving DecidableEq

namespace Traffic

def contents (s : Traffic C) (history : List (Event C)) : Place → Multiset C
  | .queue => s.pool.idle
  | .guard => Caller.connections s.callers
  | .outside => detached history

/-- Every connection that was ever opened is in one place, there once, and no others are there. -/
structure EachInPlace (s : Traffic C) (history : List (Event C)) : Prop where
  one : ∀ connection ∈ opened history, ∃! place, connection ∈ s.contents history place
  once : ∀ place, (s.contents history place).Nodup
  known : ∀ place, ∀ connection ∈ s.contents history place, connection ∈ opened history

end Traffic

variable {s s' : Traffic C} {e : Event C} {history since : List (Event C)} {maxSize : Nat}
  {pool : Pool C} {connection other : C} {idle : List C}

theorem opened_cons (e : Event C) (history : List (Event C)) :
    opened (e :: history) = e.opened?.toList ++ opened history := by
  cases e <;> rfl

theorem detached_cons (e : Event C) (history : List (Event C)) :
    detached (e :: history) = e.detached?.toList ++ detached history := by
  cases e <;> rfl

/-- A step moves connections between places. Only opening brings one in. -/
theorem Step.conserves (step : Step s e s') :
    (s'.pool.idle : Multiset C) + Caller.connections s'.callers +
        (e.detached?.toList : Multiset C) =
      s.pool.idle + Caller.connections s.callers + (e.opened?.toList : Multiset C) := by
  cases step with
  | @lent p p' rest patience turn connection taken =>
    have waiting : (p.idle : Multiset C) = (([connection] : List C) : Multiset C) + p'.idle := by
      rw [(checkout_eq_idle taken).1, Multiset.coe_add, List.singleton_append]
    rw [waiting, Caller.connections_cons, Caller.connections_cons]
    simp only [Caller.connection?, Event.detached?, Event.opened?, Option.toList, Multiset.coe_nil]
    abel
  | reserved taken =>
    obtain ⟨-, -, rfl⟩ := checkout_eq_opening taken
    simp [Caller.connections_cons, Caller.connection?, Event.detached?, Event.opened?]
  | forgotten forgot =>
    obtain ⟨-, rfl⟩ := forget_eq_ok forgot
    simp [Caller.connections_cons, Caller.connection?, Event.detached?, Event.opened?]
  | detached forgot =>
    obtain ⟨-, rfl⟩ := forget_eq_ok forgot
    simp only [Caller.connections_cons, Caller.connection?, Event.detached?, Event.opened?,
      Option.toList, Multiset.coe_nil]
    abel
  | released | opened =>
    simp only [Caller.connections_cons, Caller.connection?, Event.detached?, Event.opened?, release,
      ← Multiset.coe_add, Option.toList, Multiset.coe_nil]
    abel
  | came | blocked | gaveUp | woke | expired | failed | faulted | notified | unheard =>
    simp [Caller.connections_cons, Caller.connection?, Event.detached?, Event.opened?]

theorem Runs.conserves (created : create maxSize = .ok pool) (runs : Runs ⟨pool, 0⟩ history s) :
    (s.pool.idle : Multiset C) + Caller.connections s.callers + (detached history : Multiset C) =
      opened history := by
  induction runs with
  | start =>
    obtain ⟨rfl, -⟩ := create_eq_ok created
    rfl
  | @step s s' history e _ step ih =>
    have moved := step.conserves
    rw [detached_cons, opened_cons, ← Multiset.coe_add, ← Multiset.coe_add, ← add_assoc, moved,
      ← ih]
    abel

theorem Runs.eachInPlace (created : create maxSize = .ok pool) (runs : Runs ⟨pool, 0⟩ history s)
    (distinct : (opened history).Nodup) : s.EachInPlace history := by
  have conserved := runs.conserves created
  have all : Multiset.Nodup ((s.pool.idle : Multiset C) + Caller.connections s.callers +
      (detached history : Multiset C)) := by
    rw [conserved]
    exact distinct
  -- The three places together hold what was opened, so two of them share nothing.
  obtain ⟨inside, outside, apart⟩ := Multiset.nodup_add.mp all
  obtain ⟨queue, guard, apart'⟩ := Multiset.nodup_add.mp inside
  have known : ∀ connection, (∃ place, connection ∈ s.contents history place) ↔
      connection ∈ opened history := by
    intro connection
    rw [← Multiset.mem_coe, ← conserved, Multiset.mem_add, Multiset.mem_add]
    constructor
    · rintro ⟨_ | _ | _, here⟩
      · exact .inl (.inl here)
      · exact .inl (.inr here)
      · exact .inr here
    · rintro ((here | here) | here)
      · exact ⟨.queue, here⟩
      · exact ⟨.guard, here⟩
      · exact ⟨.outside, here⟩
  refine ⟨?_, ?_, fun place connection here => (known connection).mp ⟨place, here⟩⟩
  · intro connection member
    obtain ⟨place, here⟩ := (known connection).mpr member
    refine ⟨place, here, ?_⟩
    intro place' here'
    have notBoth : ¬ (connection ∈ s.pool.idle ∧ connection ∈ Caller.connections s.callers) :=
      fun ⟨left, right⟩ => Multiset.disjoint_left.mp apart' left right
    have notGone : connection ∈ (s.pool.idle : Multiset C) + Caller.connections s.callers →
        connection ∉ (detached history : Multiset C) :=
      fun left => Multiset.disjoint_left.mp apart left
    rw [Multiset.mem_add] at notGone
    cases place <;> cases place' <;> simp only [Traffic.contents] at here here' <;> tauto
  · intro place
    cases place with
    | queue => exact queue
    | guard => exact guard
    | outside => exact outside

theorem Traffic.EachInPlace.same (places : s.EachInPlace history) {place place' : Place}
    (here : connection ∈ s.contents history place)
    (here' : connection ∈ s.contents history place') : place = place' :=
  (places.one connection (places.known place connection here)).unique here here'

def SinceRelease (connection : C) (since history : List (Event C)) : Prop :=
  ∃ before, history = since ++ .released connection :: before ∧ .released connection ∉ since

def ReleasedBefore (history : List (Event C)) (connection other : C) : Prop :=
  ∃ since since', SinceRelease connection since history ∧ SinceRelease other since' history ∧
    since'.length < since.length

/-- The queue holds connections that were given back, in the order in which they were. -/
structure Queued (history : List (Event C)) (idle : List C) : Prop where
  released : ∀ connection ∈ idle, ∃ since, SinceRelease connection since history
  ordered : idle.Pairwise (ReleasedBefore history)

theorem SinceRelease.later (released : SinceRelease connection since history)
    (unreleased : e ≠ .released connection) :
    SinceRelease connection (e :: since) (e :: history) := by
  obtain ⟨before, shape, last⟩ := released
  refine ⟨before, by rw [shape]; rfl, ?_⟩
  intro member
  rcases List.mem_cons.mp member with same | member
  · exact unreleased same.symm
  · exact last member

theorem Queued.later (queued : Queued history idle)
    (unreleased : ∀ connection ∈ idle, e ≠ .released connection) : Queued (e :: history) idle where
  released := by
    intro connection member
    obtain ⟨since, released⟩ := queued.released connection member
    exact ⟨_, released.later (unreleased connection member)⟩
  ordered := by
    refine queued.ordered.imp_of_mem ?_
    rintro connection other member member' ⟨since, since', released, released', longer⟩
    exact ⟨_, _, released.later (unreleased connection member),
      released'.later (unreleased other member'), Nat.succ_lt_succ longer⟩

theorem Queued.release (queued : Queued history idle) (absent : connection ∉ idle) :
    Queued (.released connection :: history) (idle ++ [connection]) := by
  have just : SinceRelease connection [] (.released connection :: history) :=
    ⟨history, rfl, List.not_mem_nil⟩
  have later := queued.later (e := .released connection) fun other member same => by
    cases same
    exact absent member
  constructor
  · intro other member
    rcases List.mem_append.mp member with member | member
    · exact later.released other member
    · obtain rfl := List.mem_singleton.mp member
      exact ⟨[], just⟩
  · refine List.pairwise_append.mpr ⟨later.ordered, List.pairwise_singleton _ _, ?_⟩
    intro other member last here
    obtain rfl := List.mem_singleton.mp here
    obtain ⟨since, released⟩ := queued.released other member
    have unreleased : Event.released last ≠ .released other := by
      rintro ⟨⟩
      exact absent member
    exact ⟨_, [], released.later unreleased, just, Nat.succ_pos _⟩

theorem Step.queued (step : Step s e s') (places : s.EachInPlace history)
    (queued : Queued history s.pool.idle) : Queued (e :: history) s'.pool.idle := by
  cases step with
  | lent taken =>
    rw [(checkout_eq_idle taken).1] at queued
    have rest : Queued history _ := ⟨fun connection member =>
      queued.released connection (List.mem_cons_of_mem _ member),
      (List.pairwise_cons.mp queued.ordered).2⟩
    exact rest.later nofun
  | reserved taken =>
    obtain ⟨-, -, rfl⟩ := checkout_eq_opening taken
    exact queued.later nofun
  | forgotten forgot | detached forgot =>
    obtain ⟨-, rfl⟩ := forget_eq_ok forgot
    exact queued.later nofun
  | @released p rest connection =>
    apply queued.release
    intro idle
    have held : connection ∈ Caller.connections (.holding connection ::ₘ rest) := by
      simp [Caller.connections_cons, Caller.connection?]
    have here : connection ∈
        Traffic.contents ⟨p, .holding connection ::ₘ rest⟩ history .queue := idle
    have same : Place.queue = Place.guard := places.same here held
    cases same
  | came | blocked | gaveUp | woke | expired | opened | failed | faulted | notified | unheard =>
    exact queued.later nofun

theorem distinct_of_later (distinct : (opened (e :: history)).Nodup) : (opened history).Nodup := by
  rw [opened_cons] at distinct
  exact distinct.of_append_right

theorem Runs.queued (created : create maxSize = .ok pool) (runs : Runs ⟨pool, 0⟩ history s)
    (distinct : (opened history).Nodup) : Queued history s.pool.idle := by
  induction runs with
  | start =>
    obtain ⟨rfl, -⟩ := create_eq_ok created
    exact ⟨nofun, .nil⟩
  | step runs step ih =>
    have before := distinct_of_later distinct
    exact step.queued (runs.eachInPlace created before) (ih before)

theorem Step.lent_oldest (step : Step s (.lent connection) s')
    (places : s.EachInPlace history) (queued : Queued history s.pool.idle) :
    connection ∈ s.pool.idle ∧ .holding connection ∈ s'.callers ∧
      ∀ other ∈ s.pool.idle, other ≠ connection → ReleasedBefore history connection other := by
  cases step with
  | lent taken =>
    have ordered := queued.ordered
    rw [(checkout_eq_idle taken).1] at ordered ⊢
    refine ⟨List.mem_cons_self, Multiset.mem_cons_self _ _, ?_⟩
    intro other member ne
    rcases List.mem_cons.mp member with rfl | member
    · exact absurd rfl ne
    · exact (List.pairwise_cons.mp ordered).1 other member

theorem mem_detached : connection ∈ detached history ↔ .detached connection ∈ history := by
  rw [detached, List.mem_filterMap]
  constructor
  · rintro ⟨e, member, left⟩
    cases e <;> cases left
    exact member
  · exact fun member => ⟨_, member, rfl⟩

/-- What left the pool is not handed out again, and nothing like it is opened. -/
theorem Runs.gone (created : create maxSize = .ok pool) (runs : Runs ⟨pool, 0⟩ history s)
    (distinct : (opened history).Nodup) {later earlier : List (Event C)}
    (shape : history = later ++ .detached connection :: earlier) :
    .lent connection ∉ later ∧ .opened connection ∉ later := by
  induction runs generalizing later with
  | start => simp at shape
  | @step s s' history e runs step ih =>
    cases later with
    | nil => exact ⟨List.not_mem_nil, List.not_mem_nil⟩
    | cons first later =>
      obtain ⟨rfl, tail⟩ := List.cons.inj shape
      have before := distinct_of_later distinct
      obtain ⟨notLent, notOpened⟩ := ih before tail
      have places := runs.eachInPlace created before
      have left : connection ∈ detached history := mem_detached.mpr (by rw [tail]; simp)
      constructor
      · intro member
        rcases List.mem_cons.mp member with rfl | member
        · have idle := (step.lent_oldest places (runs.queued created before)).1
          have here : connection ∈ s.contents history .queue := idle
          have same : Place.queue = Place.outside := places.same here left
          cases same
        · exact notLent member
      · intro member
        rcases List.mem_cons.mp member with rfl | member
        · rw [opened_cons] at distinct
          exact (List.nodup_cons.mp distinct).1 (places.known .outside connection left)
        · exact notOpened member

/-- However callers get in each other's way, no connection is lost, shared or handed out after it
    left, those that wait are lent in the order of their return, and a new one is opened only where
    none waits and there is room. A call that fails leaves nothing behind. -/
theorem connections_kept [ToString C] (created : create maxSize = .ok pool)
    (runs : Runs ⟨pool, 0⟩ history s) (distinct : (opened history).Nodup) :
    s.EachInPlace history ∧
      (∀ connection s', Step s (.lent connection) s' →
        connection ∈ s.pool.idle ∧ .holding connection ∈ s'.callers ∧
          ∀ other ∈ s.pool.idle, other ≠ connection → ReleasedBefore history connection other) ∧
      (∀ s', Step s .reserved s' → s.pool.idle = [] ∧ s.pool.total < s.pool.maxSize) ∧
      (∀ connection later earlier, history = later ++ .detached connection :: earlier →
        .lent connection ∉ later ∧ .opened connection ∉ later) ∧
      ∀ (bench : Scenario.Bench C) others, s.callers = bench.holders + others → ∀ timeout,
        (∀ interlude, ¬ (s.pool.idle = [] ∧ s.pool.total < s.pool.maxSize) →
          (Scenario.acquire interlude timeout (s.pool, bench)).2.2.calls = bench.calls) ∧
        ∀ during : Option (List (Scenario.Act C)),
          (∀ acts ∈ during, Scenario.anyExchanges acts = false) →
          Scenario.LeavesNothing during timeout (s.pool, bench)
            (Scenario.acquire (during.map Scenario.runAll) timeout (s.pool, bench)) := by
  have places := runs.eachInPlace created distinct
  have queued := runs.queued created distinct
  refine ⟨places, fun connection s' step => step.lent_oldest places queued, ?_, ?_, ?_⟩
  · intro s' step
    cases step with
    | reserved taken =>
      obtain ⟨nobody, room, -⟩ := checkout_eq_opening taken
      exact ⟨nobody, room⟩
  · exact fun connection later earlier shape => runs.gone created distinct shape
  · intro bench others callers timeout
    refine ⟨fun interlude busy => Scenario.acquire_calls busy interlude timeout, ?_⟩
    intro during kept
    obtain ⟨p, _⟩ := s
    obtain rfl : _ = bench.holders + others := callers
    exact Scenario.acquire_leavesNothing created runs kept timeout

def recycled : List (Event Nat) :=
  [.lent 2, .came, .notified, .detached 1, .lent 1, .came, .notified, .released 2, .notified,
    .released 1, .opened 2, .reserved, .came, .opened 1, .reserved, .came]

theorem recycled_runs : Runs ⟨⟨[], 0, 2⟩, 0⟩ recycled ⟨⟨[], 1, 2⟩, {.holding 2}⟩ := by
  have first : Runs (⟨⟨[], 0, 2⟩, 0⟩ : Traffic Nat) _ ⟨⟨[], 1, 2⟩, .holding 1 ::ₘ 0⟩ :=
    ((Runs.start.step (.came none)).step (.reserved rfl)).step (.opened 1)
  have both := ((first.step (.came none)).step (.reserved rfl)).step (.opened 2)
  rw [Multiset.cons_swap] at both
  have back := (both.step .released).step (.unheard (by simp [Caller.waits]))
  have idle := (back.step .released).step (.unheard nofun)
  have left := ((idle.step (.came none)).step (.lent rfl)).step (.detached rfl)
  have quiet := left.step (.unheard nofun)
  exact (quiet.step (.came none)).step (.lent rfl)

def refusing : Scenario.Bench Nat where
  now := ⟨0, 0⟩
  outcome _ := .error ⟨"refused", none⟩
  guards := #[some 2]

theorem recycled_connections_kept :
    create 2 = .ok (⟨[], 0, 2⟩ : Pool Nat) ∧
      Runs ⟨⟨[], 0, 2⟩, 0⟩ recycled ⟨⟨[], 1, 2⟩, {.holding 2}⟩ ∧ (opened recycled).Nodup ∧
      (⟨⟨[], 1, 2⟩, {.holding 2}⟩ : Traffic Nat).EachInPlace recycled ∧
      Scenario.LeavesNothing (some [.plain (.release 0)]) none (⟨[], 1, 2⟩, refusing)
        (Scenario.acquire (some (Scenario.runAll [.plain (.release 0)])) none
          (⟨[], 1, 2⟩, refusing)) := by
  have created : create 2 = .ok (⟨[], 0, 2⟩ : Pool Nat) := rfl
  have distinct : (opened recycled).Nodup := by decide
  have callers : ({.holding 2} : Multiset (Caller Nat)) = refusing.holders + 0 := rfl
  obtain ⟨places, -, -, -, calls⟩ := connections_kept created recycled_runs distinct
  refine ⟨created, recycled_runs, distinct, places, ?_⟩
  apply (calls refusing 0 callers none).2 (some [.plain (.release 0)])
  rintro acts ⟨⟩
  rfl

/-- What was given back while a connection was refused stays in the queue. -/
example : (Scenario.acquire (some (Scenario.runAll [.plain (.release 0)])) none
    (⟨[], 1, 2⟩, refusing)).2.1 = ⟨[2], 1, 2⟩ := by decide

end CacheAside.Pool
