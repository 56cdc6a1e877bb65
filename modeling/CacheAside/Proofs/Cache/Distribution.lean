import Mathlib.Algebra.Order.BigOperators.Group.List
import Mathlib.Algebra.Order.Ring.Nat
import CacheAside.Cache.Distribution
import CacheAside.Proofs.Yields

namespace CacheAside

theorem Word.foldlM_add {start : Nat} {l : List Nat} (fits : start + l.sum < bound) :
    l.foldlM add start = .ok (start + l.sum) := by
  induction l generalizing start with
  | nil => rfl
  | cons n l ih =>
    rw [List.sum_cons] at fits ⊢
    rw [List.foldlM_cons, add_of_lt (by omega), ← Nat.add_assoc]
    exact ih (by omega)

namespace Sharded

theorem sum_first_shares (capacity count first : Nat) :
    ((List.range first).map (share capacity count)).sum =
      first * (capacity / count) + min first (capacity % count) := by
  induction first with
  | zero => simp
  | succ first ih =>
    rw [List.range_succ, List.map_append, List.sum_append, ih, List.map_singleton,
      List.sum_singleton, share, Nat.succ_mul]
    split <;> omega

/-- The shards have the whole capacity between them. -/
theorem sum_shares {capacity shards : Nat} (positive : 0 < capacity) (requested : 0 < shards) :
    (shares capacity shards).sum = capacity := by
  have counted : 0 < min shards capacity := by omega
  have rest := Nat.mod_lt capacity counted
  rw [shares, sum_first_shares, Nat.min_eq_right (Nat.le_of_lt rest)]
  exact Nat.div_add_mod capacity _

/-- No shard is left without room, since there are no more shards than entries. -/
theorem shares_pos {capacity shards share : Nat} (positive : 0 < capacity) (requested : 0 < shards)
    (member : share ∈ shares capacity shards) : 0 < share := by
  obtain ⟨index, _, rfl⟩ := List.mem_map.mp member
  have one : 0 < capacity / min shards capacity := Nat.div_pos (by omega) (by omega)
  exact Nat.lt_of_lt_of_le one (Nat.le_add_right _ _)

theorem shares_one {capacity : Nat} (positive : 0 < capacity) : shares capacity 1 = [capacity] := by
  have one : min 1 capacity = 1 := by omega
  simp [shares, one, share, Nat.mod_one]

end Sharded

end CacheAside
