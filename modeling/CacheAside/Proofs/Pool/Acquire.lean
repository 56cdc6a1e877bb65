import Mathlib.Data.Multiset.AddSub
import CacheAside.Proofs.Pool.Accounting

namespace CacheAside.Pool

variable {C W ε : Type}

def Caller.with : Checkout C → Caller C
  | .idle connection => .holding connection
  | .opening => .opening

/-- Where a caller stands whose call came to this. A call that waits does so for its turn or for
    the connection it opens. -/
inductive Caller.Stands : Caller C → Outcome ε C → Prop
  | holding (connection : C) : Stands (.holding connection) (.ok connection)
  | refused (error : ε) : Stands .notifying (.error error)
  | unwound (fault : Fault) : Stands .notifying (.fault fault)
  | blocked (patience : Option Span) : Stands (.blocked patience) .blocked
  | opening : Stands .opening .blocked

/-- Where a run of callers' steps stands before `f`, a longer one stands after it: `held` are the
    callers whose connections `f` works with, and of the others `mine` stay as they are. -/
def Advances (held : W → Multiset (Caller C)) (start : Traffic C) (f : Pool C × W → Pool C × W) :
    Prop :=
  ∀ p w history (mine rest : Multiset (Caller C)), Runs start history ⟨p, held w + (mine + rest)⟩ →
    ∃ since rest', Runs start (since ++ history) ⟨(f (p, w)).1, held (f (p, w)).2 + (mine + rest')⟩

/-- A run goes on with a call for a connection, while some callers stay as they are and others do
    what they do. Whoever called stands where the call came to, or left without a connection. -/
def Called (held : W → Multiset (Caller C)) (start : Traffic C) (history : List (Event C))
    (mine : Multiset (Caller C)) (acquired : Outcome ε C × (Pool C × W)) : Prop :=
  ∃ since callers rest, Runs start (since ++ history)
      ⟨acquired.2.1, callers + (held acquired.2.2 + (mine + rest))⟩ ∧
    ((callers = 0 ∧ ∀ connection, acquired.1 ≠ .ok connection) ∨
      ∃ caller, callers = {caller} ∧ caller.Stands acquired.1)

theorem Caller.Stands.mapError {ε' : Type} {outcome : Outcome ε C} {caller : Caller C}
    (stands : caller.Stands outcome) (f : ε → ε') : caller.Stands (outcome.mapError f) := by
  cases stands with
  | holding connection => exact .holding connection
  | refused error => exact .refused (f error)
  | unwound fault => exact .unwound fault
  | blocked patience => exact .blocked patience
  | opening => exact .opening

variable {connect : Pool C × W → Outcome ConnectionError C × (Pool C × W)} {maxSize : Nat}
  {p pool : Pool C} {mine rest : Multiset (Caller C)} {history : List (Event C)}
  {held : W → Multiset (Caller C)} {start : Traffic C} {f g : Pool C × W → Pool C × W}

theorem Advances.id : Advances held start id := fun _ _ _ _ rest runs => ⟨[], rest, runs⟩

theorem Advances.comp (later : Advances held start g) (first : Advances held start f) :
    Advances held start (g ∘ f) := by
  intro p w history mine rest runs
  obtain ⟨since, rest₁, runs₁⟩ := first p w history mine rest runs
  obtain ⟨since', rest₂, runs₂⟩ := later _ _ _ mine rest₁ runs₁
  rw [← List.append_assoc] at runs₂
  exact ⟨_, rest₂, runs₂⟩

theorem Called.mapError {acquired : Outcome ε C × (Pool C × W)}
    (called : Called held start history mine acquired) {ε' : Type} (f : ε → ε') :
    Called held start history mine (acquired.1.mapError f, acquired.2) := by
  obtain ⟨since, callers, rest, runs, ⟨rfl, empty⟩ | ⟨caller, rfl, stands⟩⟩ := called
  · refine ⟨since, 0, rest, runs, .inl ⟨rfl, ?_⟩⟩
    intro connection same
    cases outcome : acquired.1 with
    | ok other => exact empty other outcome
    | error _ | fault _ | blocked =>
      rw [outcome] at same
      cases same
  · exact ⟨since, {caller}, rest, runs, .inr ⟨caller, rfl, stands.mapError f⟩⟩

theorem Step.checkout {p' : Pool C} {checkedOut : Checkout C}
    (taken : p.checkout = some (checkedOut, p')) (patience : Option Span) (turn : Turn) :
    ∃ e, Step ⟨p, .ready patience turn ::ₘ rest⟩ e ⟨p', .with checkedOut ::ₘ rest⟩ := by
  cases checkedOut with
  | idle connection => exact ⟨_, .lent taken⟩
  | opening => exact ⟨_, .reserved taken⟩

theorem Runs.forgets (created : create maxSize = .ok pool)
    (runs : Runs ⟨pool, 0⟩ history ⟨p, .unopened ::ₘ rest⟩) :
    ∃ p', p.forget = .ok p' ∧ Runs ⟨pool, 0⟩ (.forgotten :: history) ⟨p', .notifying ::ₘ rest⟩ := by
  obtain ⟨balanced, -⟩ := runs.balanced created
  obtain ⟨p', forgot⟩ := Traffic.forget_of_taken balanced (Multiset.mem_cons_self _ rest) rfl
  exact ⟨p', forgot, runs.step (.forgotten forgot)⟩

theorem settle_runs (created : create maxSize = .ok pool)
    (runs : Runs ⟨pool, 0⟩ history ⟨p, .opening ::ₘ rest⟩) (w : W)
    (opened : Outcome ConnectionError C) :
    (settle opened (p, w)).1 = opened ∧ ∃ since caller, caller.Stands opened ∧
      Runs ⟨pool, 0⟩ (since ++ history) ⟨(settle opened (p, w)).2.1, caller ::ₘ rest⟩ := by
  cases opened with
  | ok connection => exact ⟨rfl, [_], _, .holding connection, runs.step (.opened connection)⟩
  | blocked => exact ⟨rfl, [], _, .opening, runs⟩
  | error error =>
    obtain ⟨p', forgot, runs'⟩ := (runs.step (.failed error)).forgets created
    simp only [settle, forgot]
    exact ⟨trivial, [_, _], _, .refused error, runs'⟩
  | fault fault =>
    obtain ⟨p', forgot, runs'⟩ := (runs.step (.faulted fault)).forgets created
    simp only [settle, forgot]
    exact ⟨trivial, [_, _], _, .unwound fault, runs'⟩

theorem complete_runs (created : create maxSize = .ok pool)
    (advances : Advances held ⟨pool, 0⟩ fun s => (connect s).2) {checkedOut : Checkout C} (w : W)
    (runs : Runs ⟨pool, 0⟩ history ⟨p, .with checkedOut ::ₘ (held w + (mine + rest))⟩) :
    ∃ since caller rest', caller.Stands (complete connect checkedOut (p, w)).1 ∧
      Runs ⟨pool, 0⟩ (since ++ history)
        ⟨(complete connect checkedOut (p, w)).2.1,
          caller ::ₘ (held (complete connect checkedOut (p, w)).2.2 + (mine + rest'))⟩ := by
  cases checkedOut with
  | idle connection => exact ⟨[], _, rest, .holding connection, runs⟩
  | opening =>
    rw [← Multiset.add_cons, ← Multiset.cons_add] at runs
    obtain ⟨since, rest', runs'⟩ := advances p w history (.opening ::ₘ mine) rest runs
    rw [Multiset.cons_add, Multiset.add_cons] at runs'
    obtain ⟨same, later, caller, stands, settled⟩ :=
      settle_runs created runs' (connect (p, w)).2.2 (connect (p, w)).1
    refine ⟨later ++ since, caller, rest', ?_, ?_⟩
    · simpa [complete, same] using stands
    · simpa [complete, settle_snd] using settled

/-- A call for a connection is one of the ways in which callers can take their steps. -/
theorem acquire_runs (created : create maxSize = .ok pool)
    (advances : Advances held ⟨pool, 0⟩ fun s => (connect s).2) (w : W)
    (runs : Runs ⟨pool, 0⟩ history ⟨p, held w + (mine + rest)⟩) :
    Called held ⟨pool, 0⟩ history mine (acquire connect (p, w)) := by
  have came := runs.step (.came none)
  cases taken : p.checkout with
  | none =>
    have blocked := came.step (.blocked taken nofun)
    simp only [acquire, taken]
    rw [← Multiset.singleton_add] at blocked
    exact ⟨[_, _], _, rest, blocked, .inr ⟨_, rfl, .blocked none⟩⟩
  | some out =>
    obtain ⟨e, step⟩ := Step.checkout taken none .first
    obtain ⟨since, caller, rest', stands, completed⟩ :=
      complete_runs created advances w (came.step step)
    simp only [acquire, taken]
    refine ⟨since ++ [e, .came], {caller}, rest', ?_, .inr ⟨caller, rfl, stands⟩⟩
    rw [List.append_assoc, Multiset.singleton_add]
    exact completed

theorem acquireWithin_runs (created : create maxSize = .ok pool)
    (advances : Advances held ⟨pool, 0⟩ fun s => (connect s).2) (now : Instant) (timeout : Span)
    (w : W) (runs : Runs ⟨pool, 0⟩ history ⟨p, held w + (mine + rest)⟩) :
    Called held ⟨pool, 0⟩ history mine (acquireWithin connect now timeout (p, w)) := by
  have came := runs.step (.came (some timeout))
  cases reckoned : now.after timeout with
  | error fault =>
    simp only [acquireWithin, reckoned]
    exact ⟨[], 0, rest, by rwa [Multiset.zero_add], .inl ⟨rfl, nofun⟩⟩
  | ok deadline =>
    cases taken : p.checkout with
    | none =>
      simp only [acquireWithin, reckoned, taken]
      have blocked := came.step (.blocked taken nofun)
      have gone := (blocked.step .expired).step (.gaveUp taken)
      exact ⟨[_, _, _, _], 0, rest, by rwa [Multiset.zero_add], .inl ⟨rfl, nofun⟩⟩
    | some out =>
      obtain ⟨e, step⟩ := Step.checkout taken (some timeout) .first
      obtain ⟨since, caller, rest', stands, completed⟩ :=
        complete_runs created advances w (came.step step)
      simp only [acquireWithin, reckoned, taken]
      refine ⟨since ++ [e, .came], {caller}, rest', ?_, .inr ⟨caller, rfl, stands.mapError _⟩⟩
      rw [List.append_assoc, Multiset.singleton_add]
      exact completed

theorem Runs.called {s : Traffic C} (created : create maxSize = .ok pool)
    (runs : Runs ⟨pool, 0⟩ history s)
    (advances : Advances held ⟨pool, 0⟩ fun s => (connect s).2) {w : W}
    (callers : s.callers = held w + mine) :
    Called held ⟨pool, 0⟩ history mine (acquire connect (s.pool, w)) ∧
      ∀ now timeout,
        Called held ⟨pool, 0⟩ history mine (acquireWithin connect now timeout (s.pool, w)) := by
  obtain ⟨p, _⟩ := s
  obtain rfl : _ = held w + mine := callers
  rw [← Multiset.add_zero mine] at runs
  exact ⟨acquire_runs created advances w runs,
    fun now timeout => acquireWithin_runs created advances now timeout w runs⟩

end CacheAside.Pool
