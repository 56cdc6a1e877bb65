import CacheAside.Proofs.Yields

namespace CacheAside

variable {σ τ ω α : Type}

def replay (step : σ → ω → Except Fault (α × σ)) (s : σ) : List ω → Except Fault (List α × σ)
  | [] => return ([], s)
  | op :: ops => do
    let (answer, s) ← step s op
    let (answers, s) ← replay step s ops
    return (answer :: answers, s)

def onState (f : σ → τ) (x : Except Fault (α × σ)) : Except Fault (α × τ) := do
  let (answer, s) ← x
  return (answer, f s)

theorem onState_eq_ok {f : σ → τ} {x : Except Fault (α × σ)} {answer : α} {t : τ}
    (returned : onState f x = .ok (answer, t)) : ∃ s, x = .ok (answer, s) ∧ t = f s := by
  obtain ⟨⟨_, s⟩, done, same⟩ := eq_ok_of_bind returned
  cases same
  exact ⟨s, done, rfl⟩

variable {step : σ → ω → Except Fault (α × σ)} {s s' final : σ} {op : ω} {ops more : List ω}
  {answer : α} {answers first last : List α}

theorem replay_cons (stepped : step s op = .ok (answer, s'))
    (ran : replay step s' ops = .ok (answers, final)) :
    replay step s (op :: ops) = .ok (answer :: answers, final) := by
  rw [replay, stepped]
  change (replay step s' ops >>= _) = _
  rw [ran]
  rfl

theorem replay_cons_eq_ok (ran : replay step s (op :: ops) = .ok (answers, final)) :
    ∃ answer s' rest, step s op = .ok (answer, s') ∧ replay step s' ops = .ok (rest, final) ∧
      answers = answer :: rest := by
  obtain ⟨⟨answer, s'⟩, stepped, rest⟩ := eq_ok_of_bind ran
  obtain ⟨⟨answers, final⟩, ran, same⟩ := eq_ok_of_bind rest
  cases same
  exact ⟨answer, s', answers, stepped, ran, rfl⟩

theorem replay_append (before : replay step s ops = .ok (first, s'))
    (after : replay step s' more = .ok (last, final)) :
    replay step s (ops ++ more) = .ok (first ++ last, final) := by
  induction ops generalizing s first with
  | nil =>
    cases before
    exact after
  | cons op ops ih =>
    obtain ⟨answer, s₁, rest, stepped, ran, rfl⟩ := replay_cons_eq_ok before
    exact replay_cons stepped (ih ran)

theorem replay_append_eq_ok (ran : replay step s (ops ++ more) = .ok (answers, final)) :
    ∃ first s' last, replay step s ops = .ok (first, s') ∧
      replay step s' more = .ok (last, final) ∧ answers = first ++ last := by
  induction ops generalizing s answers with
  | nil => exact ⟨[], s, answers, rfl, ran, rfl⟩
  | cons op ops ih =>
    obtain ⟨answer, s₁, rest, stepped, onward, rfl⟩ := replay_cons_eq_ok ran
    obtain ⟨first, s', last, before, after, rfl⟩ := ih onward
    exact ⟨answer :: first, s', last, replay_cons stepped before, after, rfl⟩

theorem length_of_replay (ran : replay step s ops = .ok (answers, final)) :
    answers.length = ops.length := by
  induction ops generalizing s answers with
  | nil =>
    cases ran
    rfl
  | cons op ops ih =>
    obtain ⟨answer, s', rest, _, onward, rfl⟩ := replay_cons_eq_ok ran
    rw [List.length_cons, List.length_cons, ih onward]

/-- Steps that differ in the state they run on give runs that differ in it. -/
theorem replay_onState {step' : τ → ω → Except Fault (α × τ)} (f : σ → τ)
    (same : ∀ s, ∀ op ∈ ops, step' (f s) op = onState f (step s op)) (s : σ) :
    replay step' (f s) ops = onState f (replay step s ops) := by
  induction ops generalizing s with
  | nil => rfl
  | cons op ops ih =>
    have rest := ih fun s op member => same s op (List.mem_cons_of_mem _ member)
    rw [replay, replay, same s op List.mem_cons_self]
    cases step s op with
    | error fault => rfl
    | ok result =>
      change (replay step' (f result.2) ops >>= _) = onState f (replay step result.2 ops >>= _)
      rw [rest]
      cases replay step result.2 ops <;> rfl

structure Record (σ ω α : Type) where
  before : σ
  op : ω
  answer : α
  after : σ

def recording (step : σ → ω → Except Fault (α × σ)) (s : σ) (op : ω) :
    Except Fault (Record σ ω α × σ) := do
  let (answer, after) ← step s op
  return (⟨s, op, answer, after⟩, after)

theorem recording_eq_ok (stepped : step s op = .ok (answer, s')) :
    recording step s op = .ok (⟨s, op, answer, s'⟩, s') := by
  rw [recording, stepped]
  rfl

end CacheAside
