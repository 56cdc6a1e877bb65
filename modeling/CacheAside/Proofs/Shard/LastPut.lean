import CacheAside.Proofs.Shard.Serving

namespace CacheAside

namespace Cache

variable {K V : Type} [BEq K] {op : Op K V} {ops : List (Op K V)} {key : K} {value : V}

def Op.overwrites (key : K) : Op K V → Bool
  | .put other _ | .remove other => other == key
  | .clear => true
  | _ => false

/-- The last put to a key gave it this value, and it was not removed since, nor everything. -/
def LastPut (ops : List (Op K V)) (key : K) (value : V) : Prop :=
  ∃ before after, ops = before ++ .put key value :: after ∧
    ∀ op ∈ after, op.overwrites key = false

theorem LastPut.cons (op : Op K V) (last : LastPut ops key value) :
    LastPut (op :: ops) key value := by
  obtain ⟨before, after, rfl, kept⟩ := last
  exact ⟨op :: before, after, rfl, kept⟩

theorem LastPut.here (kept : ∀ op ∈ ops, op.overwrites key = false) :
    LastPut (.put key value :: ops) key value := ⟨[], ops, rfl, kept⟩

/-- It can be told from the operations that reach the shard of the key. -/
theorem LastPut.of_filter {p : Op K V → Bool} (last : LastPut (ops.filter p) key value)
    (kept : ∀ op, op.overwrites key = true → p op = true) : LastPut ops key value := by
  obtain ⟨before, after, shape, left⟩ := last
  obtain ⟨first, rest, rfl, _, shape⟩ := List.filter_eq_append_iff.mp shape
  obtain ⟨skipped, tail, rfl, _, _, rfl⟩ := List.filter_eq_cons_iff.mp shape
  refine ⟨first ++ skipped, tail, by rw [List.append_assoc], ?_⟩
  intro op member
  by_contra overwriting
  have overwriting : op.overwrites key = true := Bool.not_eq_false _ ▸ overwriting
  have none := left op (List.mem_filter.mpr ⟨member, kept op overwriting⟩)
  rw [overwriting] at none
  cases none

end Cache

namespace Lru

variable {K V : Type} [BEq K] [LawfulBEq K] {l : Lru K V} {key : K} {value : V} {capacity : Nat}

theorem peek_insert_self (positive : 0 < capacity) :
    Lru.peek (l.insert capacity key value).2 key = some value := by
  unfold insert
  split
  · rename_i held old found
    have toFront := peek_toFront found value key
    rwa [beq_self_eq_true, if_pos rfl] at toFront
  · rw [if_neg (by omega)]
    split <;> rw [peek_cons, beq_self_eq_true, if_pos rfl]

/-- What a key shows after an operation it was given by it, or showed before. -/
theorem peek_serve {op : Cache.Op K V} (distinct : l.Distinct) (positive : 0 < capacity)
    (found : Lru.peek (l.serve capacity op).2 key = some value) :
    op = .put key value ∨ op.overwrites key = false ∧ l.peek key = some value := by
  cases op with
  | put other given =>
    change Lru.peek (l.insert capacity other given).2 key = some value at found
    by_cases same : other = key
    · subst same
      rw [peek_insert_self positive] at found
      exact .inl (by rw [Option.some.inj found])
    · rcases peek_insert found with ⟨here, _⟩ | before
      · exact absurd (eq_of_beq here) same
      · exact .inr ⟨beq_false_of_ne same, before⟩
  | get other =>
    change Lru.peek (l.get other).2 key = some value at found
    exact .inr ⟨rfl, by rwa [peek_get] at found⟩
  | remove other =>
    change (l.without other).peek key = some value at found
    rw [distinct.peek_without] at found
    split at found
    · cases found
    · rename_i differ
      exact .inr ⟨Bool.not_eq_true _ ▸ differ, found⟩
  | clear => cases found
  | _ => exact .inr ⟨rfl, found⟩

end Lru

namespace Shard

variable {K V : Type} [BEq K] [Hashable K] [LawfulBEq K] {s s' : Shard K V} {l : Lru K V}
  {ops : List (Cache.Op K V)} {answers : List (Cache.Answer V)}

/-- What a key shows after a run it was given last, or it showed it before a run that did nothing
    to the key. -/
theorem Models.peek_replay (m : s.Models l) (positive : 0 < s.capacity)
    (entries : ∀ op ∈ ops, op.onEntries = true)
    (ran : replay interface.step s ops = .ok (answers, s')) {key : K} {value : V}
    (found : s'.peek key = some value) :
    Cache.LastPut ops key value ∨
      s.peek key = some value ∧ ∀ op ∈ ops, op.overwrites key = false := by
  induction ops generalizing s l answers with
  | nil =>
    cases ran
    exact .inr ⟨found, fun op member => by cases member⟩
  | cons op ops ih =>
    obtain ⟨answer, s₁, rest, stepped, onward, rfl⟩ := replay_cons_eq_ok ran
    obtain ⟨_, served⟩ := (m.serve (entries op List.mem_cons_self)).of_ok stepped
    have later : ∀ op ∈ ops, op.onEntries = true :=
      fun op member => entries op (List.mem_cons_of_mem _ member)
    rcases ih served.models (served.capacity ▸ positive) later onward with last | ⟨before, kept⟩
    · exact .inl (last.cons op)
    · rw [served.models.peek] at before
      rcases Lru.peek_serve m.distinct positive before with rfl | ⟨passed, earlier⟩
      · exact .inl (.here kept)
      · rw [← m.peek] at earlier
        exact .inr ⟨earlier, List.forall_mem_cons.mpr ⟨passed, kept⟩⟩

/-- What a shard shows of a key after a run from the start is the value of the last put to it. -/
theorem lastPut_of_create {capacity : Nat} (positive : 0 < capacity)
    (entries : ∀ op ∈ ops, op.onEntries = true)
    (ran : replay interface.step (.create capacity) ops = .ok (answers, s')) {key : K} {value : V}
    (found : s'.peek key = some value) : Cache.LastPut ops key value := by
  rcases (Models.create capacity).peek_replay positive entries ran found with last | ⟨nothing, _⟩
  · exact last
  · rw [(Models.create capacity).peek] at nothing
    cases nothing

end Shard

end CacheAside
