import CacheAside.Proofs.Pool.Acquire

namespace CacheAside.Pool

variable {C : Type} {s : Traffic C} {history : List (Event C)} {maxSize : Nat} {pool : Pool C}

/-- However callers get in each other's way, every place is idle, held or reserved, and there are
    no more of them than there may be. So giving a place back and counting the connections in use
    stay within the range of a word. The calls for a connection take the steps that this is said of,
    whatever goes on while they open one. -/
theorem accounted_for (created : create maxSize = .ok pool) (runs : Runs ⟨pool, 0⟩ history s) :
    s.pool.idle.length + s.held + s.reserved = s.pool.total ∧ s.pool.total ≤ s.pool.maxSize ∧
      s.pool.maxSize = maxSize ∧
      (∀ caller ∈ s.callers, caller.holds = true ∨ caller.reserves = true →
        ∃ p', s.pool.forget = .ok p') ∧
      s.pool.stats.inUse = .ok (s.held + s.reserved) ∧ s.held ≤ maxSize ∧
      ∀ {W : Type} (held : W → Multiset (Caller C))
        (connect : Pool C × W → Outcome ConnectionError C × (Pool C × W)),
        Advances held ⟨pool, 0⟩ (fun s => (connect s).2) → ∀ w mine, s.callers = held w + mine →
          Called held ⟨pool, 0⟩ history mine (acquire connect (s.pool, w)) ∧
          ∀ now timeout,
            Called held ⟨pool, 0⟩ history mine (acquireWithin connect now timeout (s.pool, w)) := by
  obtain ⟨balanced, size⟩ := runs.balanced created
  have total := balanced.total
  have fits := balanced.fits
  have inUse := balanced.inUse
  rw [s.taken_eq] at total inUse
  refine ⟨by omega, fits, size, ?_, inUse, by omega,
    fun _ _ advances _ _ callers => runs.called created advances callers⟩
  intro caller member out
  apply Traffic.forget_of_taken balanced member
  rw [Caller.takes, Bool.or_eq_true]
  exact out

def contested : List (Event Nat) :=
  [.opened 7, .reserved, .notified, .forgotten, .faulted (.raised "refused"), .blocked, .came,
    .reserved, .came]

theorem contested_runs : Runs ⟨⟨[], 0, 1⟩, 0⟩ contested ⟨⟨[], 1, 1⟩, {.holding 7}⟩ := by
  have first : Runs (⟨⟨[], 0, 1⟩, 0⟩ : Traffic Nat) [.reserved, .came] ⟨⟨[], 1, 1⟩, {.opening}⟩ :=
    (Runs.start.step (.came none)).step (.reserved rfl)
  have second := (first.step (.came none)).step (.blocked rfl nofun)
  rw [← Multiset.cons_zero, Multiset.cons_swap] at second
  have woken := ((second.step (.faulted (.raised "refused"))).step (.forgotten rfl)).step .notified
  exact (woken.step (.reserved rfl)).step (.opened 7)

theorem contested_accounted_for :
    create 1 = .ok (⟨[], 0, 1⟩ : Pool Nat) ∧
      Runs ⟨⟨[], 0, 1⟩, 0⟩ contested ⟨⟨[], 1, 1⟩, {.holding 7}⟩ ∧
      (∃ p', (⟨[], 1, 1⟩ : Pool Nat).forget = .ok p') ∧
      (⟨[], 1, 1⟩ : Pool Nat).stats.inUse = .ok 1 ∧
      Called (fun _ : Unit => 0) ⟨⟨[], 0, 1⟩, 0⟩ contested {.holding 7}
        (acquire (fun s => (.ok 8, s)) (⟨[], 1, 1⟩, ())) := by
  have created : create 1 = .ok (⟨[], 0, 1⟩ : Pool Nat) := rfl
  obtain ⟨-, -, -, forgets, inUse, -, calls⟩ := accounted_for created contested_runs
  refine ⟨created, contested_runs, forgets _ (Multiset.mem_singleton_self _) (.inl rfl), inUse, ?_⟩
  exact (calls _ _ .id () _ (Multiset.zero_add _).symm).1

end CacheAside.Pool
