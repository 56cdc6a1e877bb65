import CacheAside.Proofs.Pool.Traffic

namespace CacheAside.Pool

variable {C : Type}

namespace Caller

def takes (caller : Caller C) : Bool := caller.holds || caller.reserves

end Caller

namespace Traffic

def taken (s : Traffic C) : Nat := s.callers.countP (·.takes)

theorem taken_cons (p : Pool C) (caller : Caller C) (rest : Multiset (Caller C)) :
    (⟨p, caller ::ₘ rest⟩ : Traffic C).taken =
      rest.countP (·.takes) + if caller.takes then 1 else 0 := by
  rw [taken, Multiset.countP_cons]

theorem taken_eq (s : Traffic C) : s.taken = s.held + s.reserved := by
  obtain ⟨p, callers⟩ := s
  induction callers using Multiset.induction_on with
  | empty => rfl
  | cons caller rest ih =>
    simp only [taken, held, reserved, Multiset.countP_cons] at ih ⊢
    have once : (caller.holds && caller.reserves) = false := by cases caller <;> rfl
    cases holds : caller.holds <;> cases reserves : caller.reserves <;>
      simp_all [Caller.takes] <;> omega

end Traffic

variable {s s' start : Traffic C} {e : Event C} {history : List (Event C)} {maxSize : Nat}
  {pool : Pool C}

/-- Every step keeps the places accounted for, whoever takes it. Those that only turn one kind of
    caller into another change neither side of the account. -/
theorem Step.balanced (step : Step s e s') (b : s.pool.Balanced s.taken) :
    s'.pool.Balanced s'.taken ∧ s'.pool.maxSize = s.pool.maxSize := by
  cases step with
  | lent out | reserved out =>
    rw [Traffic.taken_cons] at b ⊢
    exact b.checkout out
  | forgotten forgot | detached forgot =>
    rw [Traffic.taken_cons] at b ⊢
    obtain ⟨p', left, balanced, same⟩ := b.forget
    cases forgot.symm.trans left
    exact ⟨balanced, same⟩
  | released =>
    rw [Traffic.taken_cons] at b ⊢
    exact ⟨b.release _, rfl⟩
  | came | blocked | gaveUp | woke | expired | opened | failed | faulted | notified | unheard =>
    simpa [Traffic.taken, Caller.takes, Caller.holds, Caller.reserves] using b

theorem Runs.balanced (created : create maxSize = .ok pool) (runs : Runs ⟨pool, 0⟩ history s) :
    s.pool.Balanced s.taken ∧ s.pool.maxSize = maxSize := by
  induction runs with
  | start =>
    obtain ⟨balanced, size, -⟩ := create_balanced created
    exact ⟨balanced, size⟩
  | step _ step ih =>
    obtain ⟨balanced, size⟩ := ih
    obtain ⟨balanced', same⟩ := step.balanced balanced
    exact ⟨balanced', same.trans size⟩

theorem Traffic.forget_of_taken (b : s.pool.Balanced s.taken) {caller : Caller C}
    (member : caller ∈ s.callers) (takes : caller.takes = true) :
    ∃ p', s.pool.forget = .ok p' := by
  have some : 0 < s.taken := Multiset.countP_pos.mpr ⟨caller, member, takes⟩
  obtain ⟨rest, count⟩ : ∃ rest, s.taken = rest + 1 := ⟨s.taken - 1, by omega⟩
  rw [count] at b
  obtain ⟨p', left, -⟩ := b.forget
  exact ⟨p', left⟩

end CacheAside.Pool
