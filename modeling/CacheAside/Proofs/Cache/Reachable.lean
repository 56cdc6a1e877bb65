import Mathlib.Data.List.Forall2
import CacheAside.Cache.Op
import CacheAside.Proofs.Cache.Contents

namespace CacheAside

theorem Yields.mapM {α β : Type} {full : Prop} {post : α → β → Prop} {f : α → Except Fault β}
    (l : List α) (each : ∀ a ∈ l, Yields full (post a) (f a)) :
    Yields full (List.Forall₂ post l) (l.mapM f) := by
  induction l with
  | nil => exact .nil
  | cons a l ih =>
    rw [List.mapM_cons]
    apply (each a List.mem_cons_self).bind
    intro b here
    apply (ih fun a member => each a (List.mem_cons_of_mem _ member)).bind
    intro bs rest
    exact .cons here rest

namespace Cache

variable {K V : Type} [BEq K] [Hashable K] [ByteStream K]

inductive Reachable : Cache K V → Prop
  | built {capacity : Nat} {policy : CachePolicy} {c : Cache K V}
    (built : build capacity policy = .ok c) : Reachable c
  | step {c c' : Cache K V} {op : Op K V} {answer : Answer V} (reached : Reachable c)
    (stepped : c.step op = .ok (answer, c')) : Reachable c'

variable {c : Cache K V}

theorem clear_yields (c : Cache K V) :
    Yields (c.Full [.clearing])
      (fun c' => List.Forall₂ (fun s s' => s.clear = .ok s' ∧ s.Reaches [] [.clearing] s')
          c.shards c'.shards ∧
        ∀ key, c'.index key = c.index key) c.clear := by
  have each : ∀ s ∈ c.shards, Yields (c.Full [.clearing])
      (fun s' => s.clear = .ok s' ∧ s.Reaches [] [.clearing] s') s.clear :=
    fun s member =>
      (Shard.clear_reaches s).itself.mono (fun full => ⟨s, member, full⟩) fun _ holds => holds
  cases c with
  | coarse c =>
    have cleared := each c.shard (List.mem_singleton_self _)
    simp only [clear, Coarse.clear]
    cases result : c.shard.clear with
    | error fault =>
      rw [result] at cleared
      exact cleared
    | ok s' =>
      rw [result] at cleared
      exact ⟨.cons ⟨result, cleared.2⟩ .nil, fun _ => rfl⟩
  | sharded c =>
    have cleared := Yields.mapM _ each
    rw [show (sharded c).shards = c.shards.toList from rfl, ← Array.toList_mapM] at cleared
    simp only [clear, Sharded.clear]
    cases result : c.shards.mapM Shard.clear with
    | error fault =>
      rw [result] at cleared
      exact cleared
    | ok shards =>
      rw [result] at cleared
      exact ⟨cleared, fun _ => rfl⟩

abbrev Cleared (s s' : Shard K V) : Prop := s.clear = .ok s' ∧ s.Reaches [] [.clearing] s'

omit [ByteStream K] in
theorem capacities_of_cleared {shards shards' : List (Shard K V)}
    (cleared : List.Forall₂ Cleared shards shards') :
    shards'.map Shard.capacity = shards.map Shard.capacity := by
  rw [← List.forall₂_eq_eq_eq, List.forall₂_map_left_iff, List.forall₂_map_right_iff]
  exact cleared.flip.imp fun _ _ both => both.2.capacity

theorem WellFormed.clear (wf : c.WellFormed) :
    Yields (c.Full [.clearing]) (fun c' => c'.WellFormed) c.clear := by
  apply (clear_yields c).mono id
  rintro c' ⟨reached, index⟩
  constructor
  · intro s' member
    obtain ⟨i, bound, rfl⟩ := List.mem_iff_getElem.mp member
    exact ⟨[], (reached.get (reached.length_eq ▸ bound) bound).2.models⟩
  · intro key
    rw [index, ← reached.length_eq]
    exact wf.routed key

variable [LawfulBEq K]

theorem WellFormed.step {c' : Cache K V} {op : Op K V} {answer : Answer V} (wf : c.WellFormed)
    (stepped : c.step op = .ok (answer, c')) : c'.WellFormed := by
  cases op with
  | put key value =>
    obtain ⟨after, done, same⟩ := eq_ok_of_bind stepped
    cases same
    exact ((wf.put key value).of_ok done).1.wellFormed
  | get key =>
    obtain ⟨⟨value, after⟩, done, same⟩ := eq_ok_of_bind stepped
    cases same
    exact ((wf.get key).of_ok done).2.1.wellFormed
  | remove key =>
    obtain ⟨⟨found, after⟩, done, same⟩ := eq_ok_of_bind stepped
    cases same
    exact ((wf.remove key).of_ok done).1.wellFormed
  | clear =>
    obtain ⟨after, done, same⟩ := eq_ok_of_bind stepped
    cases same
    exact wf.clear.of_ok done
  | contains | peek | len | metrics =>
    obtain ⟨_, _, same⟩ := eq_ok_of_bind stepped
    cases same
    exact wf
  | hitRatio =>
    obtain ⟨_, _, again⟩ := eq_ok_of_bind stepped
    obtain ⟨_, _, same⟩ := eq_ok_of_bind again
    cases same
    exact wf
  | describe | policy | shardCount | shardCapacities | shardIndex =>
    cases stepped
    exact wf

theorem Reachable.wellFormed (reached : c.Reachable) : c.WellFormed := by
  induction reached with
  | built built => exact (build_wellFormed built).1
  | step _ stepped ih => exact ih.step stepped

end Cache

end CacheAside
