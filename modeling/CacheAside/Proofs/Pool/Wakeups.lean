import CacheAside.Proofs.Ends
import CacheAside.Proofs.Pool.Acquire

namespace CacheAside.Pool

variable {C : Type}

namespace Caller

def notifies : Caller C → Bool
  | notifying => true
  | _ => false

def rechecks : Caller C → Bool
  | ready _ .woken | ready _ .expired => true
  | _ => false

def waiting (callers : Multiset (Caller C)) : Nat := callers.countP (·.waits)

def notices (callers : Multiset (Caller C)) : Nat := callers.countP (·.notifies)

def rechecking (callers : Multiset (Caller C)) : Nat := callers.countP (·.rechecks)

theorem countP_cons (kind : Caller C → Bool) (caller : Caller C) (rest : Multiset (Caller C)) :
    (caller ::ₘ rest).countP (kind · = true) =
      rest.countP (kind · = true) + (kind caller).toNat := by
  rw [Multiset.countP_cons]
  cases kind caller <;> rfl

theorem waiting_cons (caller : Caller C) (rest : Multiset (Caller C)) :
    waiting (caller ::ₘ rest) = waiting rest + caller.waits.toNat := countP_cons _ caller rest

theorem notices_cons (caller : Caller C) (rest : Multiset (Caller C)) :
    notices (caller ::ₘ rest) = notices rest + caller.notifies.toNat := countP_cons _ caller rest

theorem rechecking_cons (caller : Caller C) (rest : Multiset (Caller C)) :
    rechecking (caller ::ₘ rest) = rechecking rest + caller.rechecks.toNat :=
  countP_cons _ caller rest

end Caller

def spare (p : Pool C) : Nat := p.idle.length + (p.maxSize - p.total)

/-- Whatever the pool can spare while somebody is blocked, somebody is on the way to claim it. -/
def Traffic.Attended (s : Traffic C) : Prop :=
  0 < Caller.waiting s.callers →
    s.pool.spare ≤ Caller.notices s.callers + Caller.rechecking s.callers

variable {p p' : Pool C} {s s' : Traffic C} {e : Event C} {history : List (Event C)} {maxSize : Nat}
  {pool : Pool C}

theorem spare_eq_zero (refused : p.checkout = none) : p.spare = 0 := by
  obtain ⟨nobody, full⟩ := checkout_eq_none.mp refused
  rw [spare, nobody, List.length_nil]
  omega

theorem spare_checkout {checkedOut : Checkout C} (taken : p.checkout = some (checkedOut, p')) :
    p.spare = p'.spare + 1 := by
  unfold spare
  cases checkedOut with
  | idle connection =>
    obtain ⟨waiting, sameTotal, sameSize⟩ := checkout_eq_idle taken
    rw [waiting, sameTotal, sameSize, List.length_cons]
    omega
  | opening =>
    obtain ⟨-, room, rfl⟩ := checkout_eq_opening taken
    simp only
    omega

theorem spare_release (p : Pool C) (connection : C) :
    (p.release connection).spare = p.spare + 1 := by
  simp only [spare, release, List.length_append, List.length_singleton]
  omega

theorem spare_forget (forgot : p.forget = .ok p') : p'.spare ≤ p.spare + 1 := by
  obtain ⟨-, rfl⟩ := forget_eq_ok forgot
  simp only [spare]
  omega

/-- A checkout takes from a caller who was woken no more than it takes from the pool; whoever gives
    something back owes a notice for it; a notice that reaches nobody finds nobody blocked. -/
theorem Step.attended (step : Step s e s') (attended : s.Attended) : s'.Attended := by
  unfold Traffic.Attended at attended ⊢
  cases step with
  | @lent p p' rest patience turn connection taken | @reserved p p' rest patience turn taken =>
    have less := spare_checkout taken
    have once : (Caller.rechecks (.ready patience turn : Caller C)).toNat ≤ 1 := Bool.toNat_le _
    simp only [Caller.waiting_cons, Caller.notices_cons, Caller.rechecking_cons, Caller.waits,
      Caller.notifies, Bool.toNat_false] at attended ⊢
    intro waiting
    have before := attended waiting
    omega
  | blocked refused | gaveUp refused =>
    intro _
    simp only [spare_eq_zero refused, Nat.zero_le]
  | forgotten forgot | detached forgot =>
    have more := spare_forget forgot
    simp only [Caller.waiting_cons, Caller.notices_cons, Caller.rechecking_cons, Caller.waits,
      Caller.notifies, Caller.rechecks, Bool.toNat_false, Bool.toNat_true] at attended ⊢
    intro waiting
    have before := attended waiting
    omega
  | @released p rest connection =>
    have more := spare_release p connection
    simp only [Caller.waiting_cons, Caller.notices_cons, Caller.rechecking_cons, Caller.waits,
      Caller.notifies, Caller.rechecks, Bool.toNat_false, Bool.toNat_true] at attended ⊢
    intro waiting
    have before := attended waiting
    omega
  | woke | expired | notified =>
    simp only [Caller.waiting_cons, Caller.notices_cons, Caller.rechecking_cons, Caller.waits,
      Caller.notifies, Caller.rechecks, Bool.toNat_false, Bool.toNat_true] at attended ⊢
    intro _
    have before := attended (by omega)
    omega
  | @unheard p rest nobody =>
    intro waiting
    obtain ⟨caller, member, waits⟩ := Multiset.countP_pos.mp waiting
    rw [nobody caller member] at waits
    cases waits
  | came | opened | failed | faulted =>
    simpa only [Caller.waiting_cons, Caller.notices_cons, Caller.rechecking_cons, Caller.waits,
      Caller.notifies, Caller.rechecks, Bool.toNat_false, Nat.add_zero] using attended

theorem Runs.attended (runs : Runs ⟨pool, 0⟩ history s) : s.Attended := by
  induction runs with
  | start => exact fun waiting => absurd waiting (Nat.lt_irrefl 0)
  | step _ step ih => exact step.attended ih

theorem acquireWithin_timeout {W : Type}
    {connect : Pool C × W → Outcome ConnectionError C × (Pool C × W)} {now : Instant}
    {timeout waited : Span} {w : W}
    (expired : (acquireWithin connect now timeout (p, w)).1 = .error (.timeout waited)) :
    p.checkout = none ∧ waited = timeout := by
  unfold acquireWithin at expired
  cases reckoned : now.after timeout with
  | error fault =>
    simp only [reckoned] at expired
    cases expired
  | ok deadline =>
    simp only [reckoned] at expired
    cases taken : p.checkout with
    | none =>
      simp only [taken] at expired
      cases expired
      exact ⟨rfl, rfl⟩
    | some out =>
      simp only [taken] at expired
      obtain ⟨error, -, wrong⟩ := Outcome.mapError_eq_error expired
      cases wrong

/-- Nobody stays blocked before something that could be claimed: for each such thing somebody is
    about to look, or about to wake a waiter. Only an exhausted pool makes callers give up. The
    calls for a connection take the steps that this is said of, whatever goes on while they open
    one. -/
theorem no_lost_wakeup (created : create maxSize = .ok pool) (runs : Runs ⟨pool, 0⟩ history s) :
    s.pool.maxSize = maxSize ∧ s.pool.total ≤ maxSize ∧
      ((∃ caller ∈ s.callers, caller.waits = true) →
        s.pool.idle.length + (maxSize - s.pool.total) ≤
          Caller.notices s.callers + Caller.rechecking s.callers) ∧
      ((∃ caller ∈ s.callers, caller.waits = true) →
        (∀ caller ∈ s.callers, caller.notifies = false ∧ caller.rechecks = false) →
        s.pool.idle = [] ∧ s.pool.total = maxSize) ∧
      (∀ s', Step s .gaveUp s' → s.pool.idle = [] ∧ s.pool.total = maxSize) ∧
      (∀ {W : Type} (connect : Pool C × W → Outcome ConnectionError C × (Pool C × W)) now timeout
        waited w, (acquireWithin connect now timeout (s.pool, w)).1 = .error (.timeout waited) →
          s.pool.idle = [] ∧ s.pool.total = maxSize) ∧
      ∀ {W : Type} (held : W → Multiset (Caller C))
        (connect : Pool C × W → Outcome ConnectionError C × (Pool C × W)),
        Advances held ⟨pool, 0⟩ (fun s => (connect s).2) → ∀ w mine, s.callers = held w + mine →
          Called held ⟨pool, 0⟩ history mine (acquire connect (s.pool, w)) ∧
          ∀ now timeout,
            Called held ⟨pool, 0⟩ history mine (acquireWithin connect now timeout (s.pool, w)) := by
  obtain ⟨balanced, rfl⟩ := runs.balanced created
  have attended : (∃ caller ∈ s.callers, caller.waits = true) →
      s.pool.spare ≤ Caller.notices s.callers + Caller.rechecking s.callers :=
    fun waiting => runs.attended (Multiset.countP_pos.mpr waiting)
  have exhausted : s.pool.checkout = none → s.pool.idle = [] ∧ s.pool.total = s.pool.maxSize := by
    intro refused
    obtain ⟨nobody, full, -⟩ := balanced.exhausted refused
    exact ⟨nobody, full⟩
  refine ⟨rfl, balanced.fits, attended, ?_, ?_, ?_,
    fun _ _ advances _ _ callers => runs.called created advances callers⟩
  · intro waiting quiet
    have spare := attended waiting
    have notices : Caller.notices s.callers = 0 :=
      Multiset.countP_eq_zero.mpr fun caller member => by simp [(quiet caller member).1]
    have rechecking : Caller.rechecking s.callers = 0 :=
      Multiset.countP_eq_zero.mpr fun caller member => by simp [(quiet caller member).2]
    have fits := balanced.fits
    rw [notices, rechecking, Pool.spare] at spare
    exact ⟨List.eq_nil_of_length_eq_zero (by omega), by omega⟩
  · rintro s' (_ | _)
    exact exhausted ‹_›
  · intro W connect now timeout waited w expired
    exact exhausted (acquireWithin_timeout expired).1

def overtaking : List (Event Nat) :=
  [.came, .released 7, .blocked, .came, .opened 7, .reserved, .came]

theorem overtaking_runs : Runs ⟨⟨[], 0, 1⟩, 0⟩ overtaking
    ⟨⟨[7], 1, 1⟩, {.ready none .first, .notifying, .blocked (some (.ofMillis 5))}⟩ := by
  have first : Runs (⟨⟨[], 0, 1⟩, 0⟩ : Traffic Nat) _ ⟨⟨[], 1, 1⟩, .holding 7 ::ₘ 0⟩ :=
    ((Runs.start.step (.came none)).step (.reserved rfl)).step (.opened 7)
  have waits := (first.step (.came (some (.ofMillis 5)))).step (.blocked rfl nofun)
  rw [Multiset.cons_swap] at waits
  exact (waits.step .released).step (.came none)

theorem overtaking_attended :
    create 1 = .ok (⟨[], 0, 1⟩ : Pool Nat) ∧
      Runs ⟨⟨[], 0, 1⟩, 0⟩ overtaking
        ⟨⟨[7], 1, 1⟩, {.ready none .first, .notifying, .blocked (some (.ofMillis 5))}⟩ ∧
      1 + (1 - 1) ≤
        Caller.notices (C := Nat) {.ready none .first, .notifying, .blocked (some (.ofMillis 5))} +
          Caller.rechecking (C := Nat)
            {.ready none .first, .notifying, .blocked (some (.ofMillis 5))} := by
  have created : create 1 = .ok (⟨[], 0, 1⟩ : Pool Nat) := rfl
  obtain ⟨-, -, attended, -⟩ := no_lost_wakeup created overtaking_runs
  exact ⟨created, overtaking_runs, attended ⟨.blocked (some (.ofMillis 5)), by simp, rfl⟩⟩

end CacheAside.Pool
