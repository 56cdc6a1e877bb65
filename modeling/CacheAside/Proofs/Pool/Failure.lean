import CacheAside.Proofs.Pool.Scenarios

namespace CacheAside.Pool

variable {C : Type}

theorem settle_failed {W : Type} {opened : Outcome ConnectionError C} {s : Pool C × W}
    (counted : 0 < s.1.total) (unopened : ∀ connection, opened ≠ .ok connection)
    (settled : opened ≠ .blocked) :
    settle opened s = (opened, ({ s.1 with total := s.1.total - 1 }, s.2)) := by
  have forgot : s.1.forget = .ok { s.1 with total := s.1.total - 1 } := by
    rw [forget, Word.sub_of_le counted]
    rfl
  cases opened with
  | ok connection => exact absurd rfl (unopened connection)
  | blocked => exact absurd rfl settled
  | error _ | fault _ => simp only [settle, forgot]

namespace Scenario

/-- The pool after only those operations that others carry out while a connection is opened, with
    one place reserved for it. -/
def meanwhile [ToString C] (during : Option (List (Act C))) (s : State C) : Pool C :=
  (runAll (during.getD [])
    ({ s.1 with total := s.1.total + 1 }, { s.2 with calls := s.2.calls + 1 })).2.1

def GaveBack (reserving p : Pool C) : Prop :=
  p.idle = reserving.idle ∧ p.total + 1 = reserving.total

/-- A call for a connection that fails leaves behind what others did meanwhile and nothing else. One
    that never opens a connection leaves no time for others. -/
def LeavesNothing [ToString C] (during : Option (List (Act C))) (timeout : Option Span)
    (s : State C) : Reply C × State C → Prop
  | (.refused (.timeout _), s') => s' = s
  | (.refused (.connection _), s') => GaveBack (meanwhile during s) s'.1
  | (.fault fault, s') => GaveBack (meanwhile during s) s'.1 ∨
    ∃ span, timeout = some span ∧ s.2.now.after span = .error fault ∧ s' = s
  | _ => True

variable [ToString C] {maxSize : Nat} {pool p : Pool C} {bench : Bench C} {history : List (Event C)}
  {others : Multiset (Caller C)} {during : Option (List (Act C))}

theorem connect_meanwhile (p : Pool C) (bench : Bench C) :
    (connect (during.map runAll) ({ p with total := p.total + 1 }, bench)).2.1 =
      meanwhile during (p, bench) := by
  cases during <;> rfl

/-- The reserved place is still counted when the factory is done. -/
theorem meanwhile_counts (created : create maxSize = .ok pool)
    (runs : Runs ⟨pool, 0⟩ history ⟨p, bench.holders + others⟩)
    (kept : ∀ acts ∈ during, anyExchanges acts = false)
    (taken : p.checkout = some (.opening, { p with total := p.total + 1 })) :
    0 < (meanwhile during (p, bench)).total := by
  have lawful : ∀ run ∈ during.map runAll, Lawful pool fun s => (run s).2 := by
    intro run member
    obtain ⟨acts, here, rfl⟩ := Option.mem_map.mp member
    exact runAll_lawful created acts (kept acts here)
  have opening := (runs.step (.came none)).step (.reserved taken)
  rw [← Multiset.add_cons, ← Multiset.singleton_add] at opening
  obtain ⟨since, rest, ran⟩ := connect_lawful lawful _ bench _ _ _ opening
  rw [connect_meanwhile] at ran
  obtain ⟨balanced, -⟩ := ran.balanced created
  have member : Caller.opening ∈ (connect (during.map runAll)
      ({ p with total := p.total + 1 }, bench)).2.2.holders + ({.opening} + rest) := by simp
  obtain ⟨p', forgot⟩ := Traffic.forget_of_taken balanced member rfl
  exact (forget_eq_ok forgot).1

theorem opening_leavesNothing (counted : 0 < (meanwhile during (p, bench)).total)
    (timeout : Option Span) :
    LeavesNothing during timeout (p, bench)
      (let (opened, s) := complete (connect (during.map runAll)) .opening
        ({ p with total := p.total + 1 }, bench)
      keep (opened.mapError .connection) s) := by
  simp only [complete]
  have pool : (connect (during.map runAll) ({ p with total := p.total + 1 }, bench)).2.1 =
      meanwhile during (p, bench) := connect_meanwhile p bench
  generalize connect (during.map runAll) ({ p with total := p.total + 1 }, bench) = called at pool ⊢
  obtain ⟨opened, s⟩ := called
  simp only at pool
  rw [← pool] at counted
  have gaveBack : GaveBack (meanwhile during (p, bench)) { s.1 with total := s.1.total - 1 } := by
    rw [← pool]
    exact ⟨rfl, Nat.sub_add_cancel counted⟩
  cases opened with
  | ok connection | blocked => exact trivial
  | error error =>
    have settled : settle (.error error) s =
        (.error error, ({ s.1 with total := s.1.total - 1 }, s.2)) :=
      settle_failed counted (fun _ same => by cases same) (fun same => by cases same)
    simp only [settled]
    exact gaveBack
  | fault fault =>
    have settled : settle (.fault fault) s =
        (.fault fault, ({ s.1 with total := s.1.total - 1 }, s.2)) :=
      settle_failed counted (fun _ same => by cases same) (fun same => by cases same)
    simp only [settled]
    exact .inl gaveBack

/-- A call for a connection opens one in a place reserved for it, or asks the factory for nothing
    and leaves no time for others. -/
theorem acquire_cases (interlude : Option (Interlude C)) (timeout : Option Span) (p : Pool C)
    (bench : Bench C) :
    (∃ p', p.checkout = some (.opening, p') ∧
      acquire interlude timeout (p, bench) =
        let (opened, s) := complete (connect interlude) .opening (p', bench)
        keep (opened.mapError .connection) s) ∨
    (acquire interlude timeout (p, bench)).2.2.calls = bench.calls ∧
      ∀ during, LeavesNothing during timeout (p, bench)
        (acquire interlude timeout (p, bench)) := by
  cases timeout with
  | none =>
    simp only [acquire, Pool.acquire]
    cases p.checkout with
    | none => exact .inr ⟨rfl, fun _ => trivial⟩
    | some out =>
      obtain ⟨checkedOut, p'⟩ := out
      cases checkedOut with
      | idle connection => exact .inr ⟨rfl, fun _ => trivial⟩
      | opening => exact .inl ⟨p', rfl, rfl⟩
  | some timeout =>
    simp only [acquire, Pool.acquireWithin]
    cases reckoned : bench.now.after timeout with
    | error fault => exact .inr ⟨rfl, fun _ => .inr ⟨timeout, rfl, reckoned, rfl⟩⟩
    | ok deadline =>
      cases p.checkout with
      | none => exact .inr ⟨rfl, fun _ => rfl⟩
      | some out =>
        obtain ⟨checkedOut, p'⟩ := out
        cases checkedOut with
        | idle connection => exact .inr ⟨rfl, fun _ => trivial⟩
        | opening => exact .inl ⟨p', rfl, rfl⟩

theorem acquire_leavesNothing (created : create maxSize = .ok pool)
    (runs : Runs ⟨pool, 0⟩ history ⟨p, bench.holders + others⟩)
    (kept : ∀ acts ∈ during, anyExchanges acts = false) (timeout : Option Span) :
    LeavesNothing during timeout (p, bench) (acquire (during.map runAll) timeout (p, bench)) := by
  rcases acquire_cases (during.map runAll) timeout p bench with ⟨p', taken, opens⟩ | ⟨-, nothing⟩
  · obtain ⟨-, -, rfl⟩ := checkout_eq_opening taken
    rw [opens]
    exact opening_leavesNothing (meanwhile_counts created runs kept taken) timeout
  · exact nothing during

theorem acquire_calls (busy : ¬ (p.idle = [] ∧ p.total < p.maxSize))
    (interlude : Option (Interlude C)) (timeout : Option Span) :
    (acquire interlude timeout (p, bench)).2.2.calls = bench.calls := by
  rcases acquire_cases interlude timeout p bench with ⟨p', taken, -⟩ | ⟨uncalled, -⟩
  · obtain ⟨nobody, room, -⟩ := checkout_eq_opening taken
    exact absurd ⟨nobody, room⟩ busy
  · exact uncalled

end Scenario

end CacheAside.Pool
