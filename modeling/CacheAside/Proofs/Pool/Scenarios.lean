import Mathlib.Data.Multiset.MapFold
import CacheAside.Pool.Scenario
import CacheAside.Proofs.Pool.Acquire

namespace CacheAside.Pool.Scenario

variable {C : Type}

def Op.exchanges : Op C → Bool
  | .set _ _ => true
  | _ => false

mutual

def Act.exchanges : Act C → Bool
  | .plain op => op.exchanges
  | .overlapped op during => op.exchanges || anyExchanges during

def anyExchanges : List (Act C) → Bool
  | [] => false
  | act :: acts => act.exchanges || anyExchanges acts

end

def holders (guards : List (Option C)) : Multiset (Caller C) :=
  ((guards.filterMap id).map Caller.holding : List (Caller C))

def Bench.holders (bench : Bench C) : Multiset (Caller C) := Scenario.holders bench.guards.toList

theorem holders_concat (guards : List (Option C)) (connection : C) :
    holders (guards ++ [some connection]) = .holding connection ::ₘ holders guards := by
  rw [holders, List.filterMap_append, List.map_append]
  exact Multiset.coe_eq_coe.mpr (List.perm_append_singleton _ _)

theorem holders_take {guards : List (Option C)} {guard : Nat} {connection : C}
    (held : guards[guard]? = some (some connection)) :
    holders guards = .holding connection ::ₘ holders (guards.set guard none) := by
  induction guards generalizing guard with
  | nil => cases held
  | cons first guards ih =>
    cases guard with
    | zero =>
      obtain rfl : first = some connection := Option.some.inj held
      rfl
    | succ guard =>
      have rest := ih held
      cases first with
      | none => exact rest
      | some other =>
        calc holders (some other :: guards)
            = .holding other ::ₘ .holding connection ::ₘ holders (guards.set guard none) :=
              congrArg (Caller.holding other ::ₘ ·) rest
          _ = .holding connection ::ₘ .holding other ::ₘ holders (guards.set guard none) :=
              Multiset.cons_swap _ _ _

abbrev Lawful (pool : Pool C) (f : State C → State C) : Prop := Advances Bench.holders ⟨pool, 0⟩ f

variable {maxSize : Nat} {pool p : Pool C} {bench : Bench C} {history : List (Event C)}
  {mine rest : Multiset (Caller C)} {s : State C} {interlude : Option (Interlude C)}

theorem connect_lawful (lawful : ∀ run ∈ interlude, Lawful pool fun s => (run s).2) :
    Lawful pool fun s => (connect interlude s).2 := by
  intro p bench history mine rest runs
  cases interlude with
  | none => exact ⟨[], rest, runs⟩
  | some run =>
    exact lawful run rfl p { bench with calls := bench.calls + 1 } history mine rest runs

theorem keep_runs {acquired : Outcome AcquireError C × State C}
    (called : Called Bench.holders ⟨pool, 0⟩ history mine acquired) :
    ∃ since rest, Runs ⟨pool, 0⟩ (since ++ history) ⟨(keep acquired.1 acquired.2).2.1,
      (keep acquired.1 acquired.2).2.2.holders + (mine + rest)⟩ := by
  obtain ⟨outcome, s⟩ := acquired
  obtain ⟨since, callers, rest, runs, ⟨rfl, empty⟩ | ⟨caller, rfl, stands⟩⟩ := called
  · rw [Multiset.zero_add] at runs
    cases outcome with
    | ok connection => exact absurd rfl (empty connection)
    | error _ | fault _ | blocked => exact ⟨since, rest, runs⟩
  · rw [Multiset.singleton_add] at runs
    cases stands with
    | holding connection =>
      refine ⟨since, rest, ?_⟩
      simp only [keep, Bench.holders, Array.toList_push, holders_concat, Multiset.cons_add]
      exact runs
    | refused _ | unwound _ | blocked _ | opening =>
      rw [← Multiset.add_cons, ← Multiset.add_cons] at runs
      exact ⟨since, _, runs⟩

theorem acquire_lawful (created : create maxSize = .ok pool)
    (lawful : ∀ run ∈ interlude, Lawful pool fun s => (run s).2) (timeout : Option Span) :
    Lawful pool fun s => (acquire interlude timeout s).2 := by
  have connects := connect_lawful lawful
  intro p bench history mine rest runs
  cases timeout with
  | none => exact keep_runs ((acquire_runs created connects bench runs).mapError .connection)
  | some timeout =>
    exact keep_runs (acquireWithin_runs created connects bench.now timeout bench runs)

theorem holders_put {guard : Nat} {connection : C}
    (held : bench.guards[guard]?.join = some connection) :
    bench.holders = .holding connection ::ₘ (put guard none bench).holders := by
  have held := Option.join_eq_some_iff.mp held
  rw [← Array.getElem?_toList] at held
  rw [Bench.holders, holders_take held, Bench.holders, put, Array.toList_setIfInBounds]

theorem release_lawful (guard : Nat) (reply : C → Reply C) :
    Lawful pool fun s => (release guard reply s).2 := by
  intro p bench history mine rest runs
  simp only [release, withGuard]
  cases held : bench.guards[guard]?.join with
  | none => exact ⟨[], rest, runs⟩
  | some connection =>
    rw [holders_put held, Multiset.cons_add] at runs
    have released := runs.step .released
    rw [← Multiset.add_cons, ← Multiset.add_cons] at released
    exact ⟨[_], _, released⟩

theorem detach_lawful (created : create maxSize = .ok pool) (guard : Nat) :
    Lawful pool fun s => (detach guard s).2 := by
  intro p bench history mine rest runs
  simp only [detach, withGuard]
  cases held : bench.guards[guard]?.join with
  | none => exact ⟨[], rest, runs⟩
  | some connection =>
    rw [holders_put held, Multiset.cons_add] at runs
    obtain ⟨balanced, -⟩ := runs.balanced created
    obtain ⟨p', forgot⟩ := Traffic.forget_of_taken balanced (Multiset.mem_cons_self _ _) rfl
    have detached := runs.step (.detached forgot)
    rw [← Multiset.add_cons, ← Multiset.add_cons] at detached
    simp only [show p.forget = .ok p' from forgot]
    exact ⟨[_], _, detached⟩

variable [ToString C]

theorem perform_lawful (created : create maxSize = .ok pool)
    (lawful : ∀ run ∈ interlude, Lawful pool fun s => (run s).2) {op : Op C}
    (kept : op.exchanges = false) : Lawful pool fun s => (perform interlude op s).2 := by
  have acquires := acquire_lawful created lawful
  cases op with
  | acquire => exact acquires none
  | acquireWithin timeout => exact acquires (some timeout)
  | release guard | unwind guard => exact release_lawful guard _
  | detach guard => exact detach_lawful created guard
  | set => cases kept
  | releaseToWaiter guard timeout =>
    intro p bench history mine rest runs
    by_cases waits : p.exhausted
    · simp only [perform, waits, if_true]
      exact ((acquires timeout).comp (release_lawful guard _)) p bench history mine rest runs
    · simp only [perform, waits]
      exact ⟨[], rest, runs⟩
  | detachForWaiter guard timeout =>
    intro p bench history mine rest runs
    by_cases waits : p.exhausted
    · simp only [perform, waits, if_true]
      exact ((acquires timeout).comp (detach_lawful created guard)) p bench history mine rest runs
    · simp only [perform, waits]
      exact ⟨[], rest, runs⟩
  | describeGuard guard =>
    intro p bench history mine rest runs
    simp only [perform, withGuard]
    cases bench.guards[guard]?.join <;> exact ⟨[], rest, runs⟩
  | describe | stats | maxSize | faulty => exact .id

mutual

/-- Whatever is done in a scenario, to any depth, is done in steps that callers can take, as long as
    the connections in guards stay the pool's own. -/
theorem Act.run_lawful (created : create maxSize = .ok pool) (act : Act C)
    (kept : act.exchanges = false) : Lawful pool fun s => (act.run s).2 := by
  cases act with
  | plain op =>
    exact perform_lawful created (fun run same => absurd same (Option.not_mem_none run)) kept
  | overlapped op during =>
    simp only [Act.exchanges, Bool.or_eq_false_iff] at kept
    have nested := runAll_lawful created during kept.2
    have performs : Lawful pool fun s => (perform (some (runAll during)) op s).2 :=
      perform_lawful created (fun run same => Option.mem_some.mp same ▸ nested) kept.1
    intro p bench
    exact performs p { bench with overlap := none }

theorem runAll_lawful (created : create maxSize = .ok pool) (acts : List (Act C))
    (kept : anyExchanges acts = false) : Lawful pool fun s => (runAll acts s).2 := by
  cases acts with
  | nil => exact .id
  | cons act acts =>
    simp only [anyExchanges, Bool.or_eq_false_iff] at kept
    exact (runAll_lawful created acts kept.2).comp (Act.run_lawful created act kept.1)

end

end CacheAside.Pool.Scenario
