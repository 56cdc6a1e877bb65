import CacheAside.Proofs.Service.Course
import CacheAside.Proofs.Service.Table

namespace CacheAside.Service

variable {C W : Type}

def Lends (s : Service C) (out : Nat) : Prop := s.pool.Balanced out ∧ 0 < s.pool.maxSize

structure Beside (s s' : Service C) : Prop where
  cache : s'.cache = s.cache
  acquireTimeout : s'.acquireTimeout = s.acquireTimeout

/-- Nothing stands in the way of a request: the clock can tell when the wait for a connection would
    be over, and no call of the store fails. -/
def Clear (b : Backend C W) (now : Instant) (timeout : Option Span) (w : W) : Prop :=
  (∀ span, timeout = some span → ∃ deadline, now.after span = .ok deadline) ∧ b.Reliable w

variable {b : Backend C W} {table : W → Table} {now : Instant}

theorem Beside.refl (s : Service C) : s.Beside s := ⟨rfl, rfl⟩

theorem Beside.trans {s s' s'' : Service C} (first : s.Beside s') (second : s'.Beside s'') :
    s.Beside s'' :=
  ⟨second.cache.trans first.cache, second.acquireTimeout.trans first.acquireTimeout⟩

theorem Lends.release {s s' : Service C} (lends : s.Lends 1) (same : s'.pool = s.pool) (c : C) :
    (s'.release c).Lends 0 := by
  obtain ⟨balanced, positive⟩ := lends
  rw [← same] at balanced positive
  exact ⟨balanced.release c, positive⟩

variable {pool p : Pool C} {w w' : W} {c : C}

theorem Lent.keeps (lent : Lent b pool w c p w') (keeps : b.Keeps table) :
    table w' = table w ∧ (b.Reliable w → b.Reliable w') := by
  cases lent with
  | idle longest => exact ⟨rfl, id⟩
  | opened nobody room connected =>
    exact ((keeps.connect w).unless Backend.Reliable.connect).of_ok connected

/-- An idle pool has a connection for everyone who asks, unless the wait would end beyond the clock
    or no connection can be opened. -/
theorem Unlent.keeps {timeout : Option Span} {outcome : Outcome ServiceError Empty}
    (unlent : Unlent b now timeout pool w outcome w') (keeps : b.Keeps table)
    (spare : pool.checkout ≠ none) : table w' = table w ∧ ¬ Clear b now timeout w := by
  have connects := (keeps.connect w).unless (Backend.Reliable.connect (b := b) (w := w))
  cases unlent with
  | exhausted bounded exhausted => exact absurd exhausted spare
  | deadline bounded beyond =>
    refine ⟨rfl, fun clear => ?_⟩
    obtain ⟨moment, reached⟩ := clear.1 _ bounded
    rw [beyond] at reached
    cases reached
  | refused nobody connected | broken nobody connected =>
    obtain ⟨rows, unreliable⟩ := connects.of_not_ok connected nofun
    exact ⟨rows, fun clear => unreliable clear.2⟩

theorem acquire_ends (keeps : b.Keeps table) {s : State C W} (rests : s.1.Lends 0) :
    Ends
      (fun _ s' => s'.1.Lends 1 ∧ s.1.Beside s'.1 ∧ table s'.2 = table s.2 ∧
        (b.Reliable s.2 → b.Reliable s'.2))
      (fun s' => s'.1.Lends 0 ∧ s.1.Beside s'.1 ∧ table s'.2 = table s.2 ∧
        ¬ Clear b now s.1.acquireTimeout s.2)
      (acquire b.undisturbed now s) := by
  have spare : s.1.pool.checkout ≠ none :=
    fun exhausted => Nat.ne_of_lt rests.2 (rests.1.exhausted exhausted).2.2
  have course := acquire_course b now s
  cases acquired : acquire b.undisturbed now s with | mk outcome s' =>
  rw [acquired] at course
  cases course with
  | lent lent =>
    obtain ⟨balanced, size⟩ := lent.balanced rests.1
    exact ⟨⟨balanced, size ▸ rests.2⟩, ⟨rfl, rfl⟩, lent.keeps keeps⟩
  | refused unlent | unwound unlent => exact ⟨rests, ⟨rfl, rfl⟩, unlent.keeps keeps spare⟩
  | waiting unbounded exhausted => exact absurd exhausted spare
  | opening connected =>
    have connects := keeps.connect s.2
    rw [connected] at connects
    exact connects.elim

theorem undisturbed_ends {α : Type} {call : W → Outcome StoreError α × W} {s : State C W}
    (act : Table → α × Table)
    (calls : Ends (fun a w => (a, table w) = act (table s.2)) (fun w => table w = table s.2)
      (call s.2))
    (reliable : b.Reliable s.2 → Ends (fun _ w => b.Reliable w) (fun _ => False) (call s.2))
    (service : Service C) (same : s.1.pool = service.pool) (beside : service.Beside s.1) :
    Ends
      (fun a s' => s'.1.pool = service.pool ∧ service.Beside s'.1 ∧
        (a, table s'.2) = act (table s.2))
      (fun s' => s'.1.pool = service.pool ∧ service.Beside s'.1 ∧ table s'.2 = table s.2 ∧
        ¬ b.Reliable s.2) (CacheAside.beside call s) := by
  have done := calls.unless reliable
  cases called : call s.2 with | mk outcome w =>
  rw [called] at done
  simp only [CacheAside.beside, called]
  cases outcome with
  | ok a => exact ⟨same, beside, done.1⟩
  | error _ | fault _ => exact ⟨same, beside, done⟩
  | blocked => exact done

variable {α : Type} {call : C → State C W → Outcome StoreError α × State C W}

/-- A call that acts on the table does so on a pooled connection, which is given back. -/
theorem withConnection_ends (keeps : b.Keeps table) {s : State C W} (rests : s.1.Lends 0)
    (act : Table → α × Table)
    (calls : ∀ (c : C) (s : State C W), Ends
      (fun a s' => s'.1.pool = s.1.pool ∧ s.1.Beside s'.1 ∧ (a, table s'.2) = act (table s.2))
      (fun s' => s'.1.pool = s.1.pool ∧ s.1.Beside s'.1 ∧ table s'.2 = table s.2 ∧
        ¬ b.Reliable s.2) (call c s)) :
    Ends
      (fun a s' => s'.1.Lends 0 ∧ s.1.Beside s'.1 ∧ (a, table s'.2) = act (table s.2))
      (fun s' => s'.1.Lends 0 ∧ s.1.Beside s'.1 ∧ table s'.2 = table s.2 ∧
        ¬ Clear b now s.1.acquireTimeout s.2)
      (withConnection b.undisturbed now call s) := by
  have acquires : Ends _ _ (acquire b.undisturbed now s) := acquire_ends keeps rests
  unfold withConnection
  cases acquired : acquire b.undisturbed now s with | mk outcome s₁ =>
  rw [acquired] at acquires
  cases outcome with
  | ok c =>
    obtain ⟨lends, beside₁, kept₁, reliable⟩ := acquires
    have done := calls c s₁
    cases called : call c s₁ with | mk answer s₂ =>
    rw [called] at done
    simp only [called]
    cases answer with
    | ok a =>
      obtain ⟨pool, beside₂, acted⟩ := done
      have beside := beside₁.trans beside₂
      exact ⟨lends.release pool c, ⟨beside.cache, beside.acquireTimeout⟩, kept₁ ▸ acted⟩
    | error _ | fault _ =>
      obtain ⟨pool, beside₂, kept₂, failed⟩ := done
      have beside := beside₁.trans beside₂
      exact ⟨lends.release pool c, ⟨beside.cache, beside.acquireTimeout⟩, kept₂.trans kept₁,
        fun clear => failed (reliable clear.2)⟩
    | blocked => exact done
  | error e =>
    obtain ⟨rests, beside, kept⟩ := acquires
    exact ⟨rests, ⟨beside.cache, beside.acquireTimeout⟩, kept⟩
  | fault f => exact acquires
  | blocked => exact acquires

theorem acquire_error {backend : Backend C (State C W)} {s : State C W} {e : ServiceError}
    (failed : (acquire backend now s).1 = .error e) : e.isClientError = false := by
  unfold acquire at failed
  split at failed
  · obtain ⟨cause, _, rfl⟩ := Outcome.mapError_eq_error failed
    rfl
  · obtain ⟨cause, _, rfl⟩ := Outcome.mapError_eq_error failed
    cases cause <;> rfl

theorem withConnection_error {backend : Backend C (State C W)} {s : State C W} {e : ServiceError}
    (failed : (withConnection backend now call s).1 = .error e) : e.isClientError = false := by
  unfold withConnection at failed
  cases acquired : acquire backend now s with | mk outcome s₁ =>
  rw [acquired] at failed
  cases outcome with
  | ok c =>
    simp only at failed
    cases called : call c s₁ with | mk answer s₂ =>
    rw [called] at failed
    cases answer with
    | error e =>
      cases failed
      rfl
    | ok _ | fault _ | blocked => cases failed
  | error e' =>
    cases failed
    exact acquire_error (congrArg Prod.fst acquired)
  | fault _ | blocked => cases failed

end CacheAside.Service
