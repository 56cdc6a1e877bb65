import Mathlib.Data.List.Forall2
import CacheAside.Proofs.Shard.Models

namespace CacheAside.Shard

variable {K V : Type}

def Op.onEntries : Op K V → Bool
  | .metrics | .hitRatio | .describe => false
  | _ => true

variable [BEq K] [Hashable K]

def run (s : Shard K V) : List (Op K V) → Except Fault (List (Answer K V × Shard K V))
  | [] => return []
  | op :: ops => do
    let step ← s.step op
    return step :: (← step.2.run ops)

/-- An answer, and the shard after it, show what a list of pairs shows: the answer, the keys from
    front to back, the entries, and the length, which the capacity bounds. -/
structure Shows (capacity : Nat) (ideal : Option (Answer K V) × Lru K V)
    (real : Answer K V × Shard K V) : Prop where
  answer : ideal.1 = some real.1
  keys : real.2.keys = ideal.2.map Prod.fst
  toList : real.2.toList = ideal.2
  len : real.2.len = ideal.2.length
  len_le : real.2.len ≤ capacity

variable [EquivBEq K] {s : Shard K V} {l : Lru K V}

theorem Models.shows (m : s.Models l) {answer : Answer K V} {ideal : Option (Answer K V)}
    (same : ideal = some answer) : Shows s.capacity (ideal, l) (answer, s) :=
  ⟨same, m.keys, m.toList, m.len, m.len_le⟩

variable [LawfulHashable K]

theorem Models.step (m : s.Models l) (op : Op K V) (entries : op.onEntries = true) :
    Yields (s.events.Full (l.events s.capacity op))
      (fun (answer, s') => (l.step s.capacity op).1 = some answer ∧
        s.Reaches (l.step s.capacity op).2 (l.events s.capacity op) s') (s.step op) := by
  cases op with
  | insert key value =>
    apply (m.insert key value).bind
    rintro ⟨old, s'⟩ ⟨same, reached⟩
    exact ⟨by rw [same]; rfl, reached⟩
  | get key =>
    apply (m.get key).bind
    rintro ⟨value, s'⟩ ⟨same, reached⟩
    exact ⟨by rw [same]; rfl, reached⟩
  | remove key =>
    apply (m.remove key).bind
    rintro ⟨value, s'⟩ ⟨same, reached⟩
    exact ⟨by rw [same]; rfl, reached⟩
  | popOldest =>
    obtain ⟨s', popped, reached⟩ := m.popOldest
    simp only [Shard.step, popped]
    exact ⟨rfl, reached⟩
  | clear =>
    apply (clear_reaches s).bind
    intro s' reached
    exact ⟨rfl, reached⟩
  | peek key => exact ⟨by rw [m.peek]; rfl, m.unchanged⟩
  | peekOldest => exact ⟨by rw [m.peekOldest]; rfl, m.unchanged⟩
  | rank key => exact ⟨by rw [m.rank]; rfl, m.unchanged⟩
  | contains key => exact ⟨by rw [m.contains]; rfl, m.unchanged⟩
  | metrics | hitRatio | describe => cases entries

theorem Models.run (m : s.Models l) (ops : List (Op K V))
    (entries : ∀ op ∈ ops, op.onEntries = true) {n : Nat} (counts : ∀ e, s.events.count e ≤ n)
    (short : n + ops.length < Word.bound) :
    ∃ steps, s.run ops = .ok steps ∧
      List.Forall₂ (Shows s.capacity) (l.run s.capacity ops) steps := by
  -- Carried along is a bound on every counter, which each operation raises by one at most.
  induction ops generalizing s l n with
  | nil => exact ⟨[], rfl, .nil⟩
  | cons op ops ih =>
    rw [List.length_cons] at short
    have room : ¬ s.events.Full (l.events s.capacity op) :=
      CacheEvents.not_full_of_count_le (fun e _ => counts e) (by omega)
    obtain ⟨⟨answer, s'⟩, stepped, same, reached⟩ :=
      (m.step op (entries op List.mem_cons_self)).returns room
    have counts' : ∀ e, s'.events.count e ≤ n + 1 := by
      intro e
      have once := Lru.count_events_le_one l s.capacity op e
      have before := counts e
      rw [reached.events, CacheEvents.count_tallyAll]
      omega
    obtain ⟨steps, ran, shown⟩ := ih reached.models
      (fun op member => entries op (List.mem_cons_of_mem _ member)) counts' (by omega)
    have first := reached.models.shows same
    rw [reached.capacity] at first shown
    refine ⟨(answer, s') :: steps, ?_, .cons first shown⟩
    simp only [Shard.run, stepped]
    change (s'.run ops >>= fun rest => pure ((answer, s') :: rest)) = _
    rw [ran]
    rfl

/-- A shard of any capacity, zero included, behaves through any run as a list of pairs that are
    kept most recent first. -/
theorem run_shows_lru (capacity : Nat) (ops : List (Op K V))
    (entries : ∀ op ∈ ops, op.onEntries = true) (short : ops.length < Word.bound) :
    ∃ steps, (create capacity : Shard K V).run ops = .ok steps ∧
      List.Forall₂ (Shows capacity) (Lru.run capacity [] ops) steps := by
  have counts : ∀ e, (create capacity : Shard K V).events.count e ≤ 0 := by
    intro e
    cases e <;> exact Nat.le_refl 0
  exact (Models.create capacity).run ops entries counts (by omega)

def evictingRun : List (Op Nat String) :=
  [.insert 1 "a", .insert 2 "b", .get 1, .insert 3 "c", .rank 1, .remove 3, .insert 4 "d",
    .insert 1 "e", .peekOldest, .popOldest, .contains 4, .clear, .peek 1]

theorem evictingRun_shows_lru :
    (∀ op ∈ evictingRun, op.onEntries = true) ∧ evictingRun.length < Word.bound ∧
      ∃ steps, (create 2 : Shard Nat String).run evictingRun = .ok steps ∧
        List.Forall₂ (Shows 2) (Lru.run 2 [] evictingRun) steps :=
  ⟨by decide, by decide, run_shows_lru 2 evictingRun (by decide) (by decide)⟩

example : (Lru.run 2 [] evictingRun).map Prod.snd =
    [[(1, "a")], [(2, "b"), (1, "a")], [(1, "a"), (2, "b")], [(3, "c"), (1, "a")],
      [(3, "c"), (1, "a")], [(1, "a")], [(4, "d"), (1, "a")], [(1, "e"), (4, "d")],
      [(1, "e"), (4, "d")], [(1, "e")], [(1, "e")], [], []] := by decide

end CacheAside.Shard
