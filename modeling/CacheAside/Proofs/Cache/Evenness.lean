import CacheAside.Proofs.Cache.Inclusion

namespace CacheAside.Sharded

/-- A capacity divided among `count` shards as evenly as whole numbers allow, the larger parts
    first. -/
structure EvenSplit (capacity count : Nat) (parts : List Nat) : Prop where
  length : parts.length = count
  sum : parts.sum = capacity
  falling : parts.Pairwise (· ≥ ·)
  near : ∀ part ∈ parts, ∀ other ∈ parts, part ≤ other + 1

theorem two_blocks {least : Nat} {parts : List Nat} (falling : parts.Pairwise (· ≥ ·))
    (two : ∀ part ∈ parts, part = least ∨ part = least + 1) :
    ∃ large small, parts = List.replicate large (least + 1) ++ List.replicate small least := by
  induction parts with
  | nil => exact ⟨0, 0, rfl⟩
  | cons part parts ih =>
    obtain ⟨below, fallingRest⟩ := List.pairwise_cons.mp falling
    rcases two part List.mem_cons_self with rfl | rfl
    · have rest : parts = List.replicate parts.length part := by
        rw [List.eq_replicate_iff]
        refine ⟨rfl, fun other member => ?_⟩
        have le := below other member
        have either := two other (List.mem_cons_of_mem _ member)
        omega
      refine ⟨0, parts.length + 1, ?_⟩
      rw [List.replicate_succ, ← rest]
      rfl
    · obtain ⟨large, small, rfl⟩ :=
        ih fallingRest fun other member => two other (List.mem_cons_of_mem _ member)
      exact ⟨large + 1, small, rfl⟩

def quotients (capacity count : Nat) : List Nat :=
  List.replicate (capacity % count) (capacity / count + 1) ++
    List.replicate (count - capacity % count) (capacity / count)

variable {capacity count shards : Nat} {parts : List Nat}

theorem shares_eq_quotients (some : 0 < min shards capacity) :
    shares capacity shards = quotients capacity (min shards capacity) := by
  have rest := Nat.mod_lt capacity some
  apply List.ext_getElem
  · simp only [shares, quotients, List.length_map, List.length_range, List.length_append,
      List.length_replicate]
    omega
  · intro index _ _
    simp only [shares, quotients, share, List.getElem_map, List.getElem_range,
      List.getElem_append, List.length_replicate, List.getElem_replicate]
    split_ifs <;> rfl

theorem evenSplit_quotients (some : 0 < count) :
    EvenSplit capacity count (quotients capacity count) := by
  have rest := Nat.mod_lt capacity some
  have either : ∀ part ∈ quotients capacity count,
      part = capacity / count ∨ part = capacity / count + 1 := by
    intro part member
    rcases List.mem_append.mp member with member | member
    · exact .inr (List.eq_of_mem_replicate member)
    · exact .inl (List.eq_of_mem_replicate member)
  refine ⟨?_, ?_, ?_, ?_⟩
  · rw [quotients, List.length_append, List.length_replicate, List.length_replicate]
    omega
  · have whole := Nat.div_add_mod capacity count
    rw [quotients, List.sum_append_nat, List.sum_replicate_nat, List.sum_replicate_nat,
      Nat.mul_succ, Nat.add_right_comm, ← Nat.add_mul, Nat.add_sub_cancel' (Nat.le_of_lt rest),
      whole]
  · rw [quotients, List.pairwise_append]
    refine ⟨List.pairwise_replicate.mpr (.inr (Nat.le_refl _)),
      List.pairwise_replicate.mpr (.inr (Nat.le_refl _)), ?_⟩
    intro part member other member'
    rw [List.eq_of_mem_replicate member, List.eq_of_mem_replicate member']
    exact Nat.le_succ _
  · intro part member other member'
    have := either part member
    have := either other member'
    omega

/-- There is only one even split: the last part is the quotient, and the remainder says how many
    parts are larger than it. -/
theorem EvenSplit.eq_quotients (split : EvenSplit capacity count parts) (some : 0 < count) :
    parts = quotients capacity count := by
  obtain ⟨length, sum, falling, near⟩ := split
  rcases List.eq_nil_or_concat' parts with rfl | ⟨first, least, shape⟩
  · exact absurd length (Nat.ne_of_lt some)
  have last : least ∈ parts := shape ▸ List.mem_append_right _ (List.mem_singleton_self _)
  have two : ∀ part ∈ parts, part = least ∨ part = least + 1 := by
    intro part member
    have le := near part member least last
    have ge : least ≤ part := by
      rw [shape] at falling member
      rcases List.mem_append.mp member with member | member
      · exact (List.pairwise_append.mp falling).2.2 part member least (List.mem_singleton_self _)
      · exact Nat.le_of_eq (List.mem_singleton.mp member).symm
    omega
  obtain ⟨large, small, rfl⟩ := two_blocks falling two
  have fewer : 0 < small := by
    rcases List.mem_append.mp last with member | member
    · exact absurd (List.eq_of_mem_replicate member) (Nat.ne_of_lt (Nat.lt_succ_self least))
    · exact Nat.pos_of_ne_zero (List.mem_replicate.mp member).1
  rw [List.length_append, List.length_replicate, List.length_replicate] at length
  rw [List.sum_append_nat, List.sum_replicate_nat, List.sum_replicate_nat] at sum
  have division : capacity / count = least ∧ capacity % count = large := by
    refine (Nat.div_mod_unique some).mpr ⟨?_, by omega⟩
    rw [← sum, ← length, Nat.mul_succ, Nat.add_mul]
    omega
  rw [quotients, division.1, division.2, ← length, Nat.add_sub_cancel_left]

variable {K V : Type} [BEq K] [Hashable K] {c : Sharded K V}

theorem capacity_of_create (created : create capacity shards = .ok c) : c.capacity = capacity := by
  simp only [create] at created
  split_ifs at created
  cases created
  rfl

theorem shardCount_of_create (created : create capacity shards = .ok c) :
    c.shardCount = min shards capacity := by
  have count := congrArg List.length (shardCapacities_eq created)
  rwa [shardCapacities, List.length_map, shares, List.length_map, List.length_range] at count

/-- A sharded cache has as many shards as asked for, or as many as its capacity gives an entry each.
    Between them they have the whole capacity, which can be added up without overflow, and they
    share it as evenly as can be: there is no other even split. Where the number of shards stays
    the same, no shard loses room when the capacity grows. -/
theorem capacity_spread_evenly (positive : 0 < capacity) (requested : 0 < shards) :
    ∃ c : Sharded K V, create capacity shards = .ok c ∧ c.capacity = capacity ∧
      c.shardCount = min shards capacity ∧
      (∀ part ∈ c.shardCapacities, 1 ≤ part) ∧
      EvenSplit capacity (min shards capacity) c.shardCapacities ∧
      (∀ parts, EvenSplit capacity (min shards capacity) parts → parts = c.shardCapacities) ∧
      c.shardCapacities = quotients capacity (min shards capacity) ∧
      (capacity < Word.bound → (∀ part ∈ c.shardCapacities, part < Word.bound) ∧
        c.shardCapacities.foldlM Word.add 0 = .ok capacity) ∧
      ∀ (larger shards' : Nat) (c' : Sharded K V), capacity ≤ larger →
        create larger shards' = .ok c' → c'.shardCount = c.shardCount →
        List.Forall₂ (· ≤ ·) c.shardCapacities c'.shardCapacities := by
  have some : 0 < min shards capacity := by omega
  obtain ⟨c, created⟩ : ∃ c : Sharded K V, create capacity shards = .ok c := by
    rw [create, if_neg (Nat.ne_of_gt positive), if_neg (Nat.ne_of_gt requested)]
    exact ⟨_, rfl⟩
  have capacities := shardCapacities_eq created
  have blocks := capacities.trans (shares_eq_quotients some)
  have split : EvenSplit capacity (min shards capacity) c.shardCapacities :=
    blocks ▸ evenSplit_quotients some
  refine ⟨c, created, ?_, ?_, ?_, split, ?_, blocks, ?_, ?_⟩
  · exact capacity_of_create created
  · exact shardCount_of_create created
  · intro part member
    exact shares_pos positive requested (capacities ▸ member)
  · intro parts other
    rw [other.eq_quotients some, blocks]
  · intro fits
    refine ⟨fun part member => ?_, ?_⟩
    · have within := List.le_sum_of_mem member
      rw [split.sum] at within
      exact Nat.lt_of_le_of_lt within fits
    · rw [Word.foldlM_add (by rw [split.sum]; omega), split.sum, Nat.zero_add]
  · intro larger shards' c' le created' same
    rw [shardCount_of_create created, shardCount_of_create created'] at same
    rw [capacities, shardCapacities_eq created', shares, shares, same, List.forall₂_map_left_iff,
      List.forall₂_map_right_iff]
    exact List.forall₂_same.mpr fun index _ => share_le_share le _ index

/-- Eleven entries in four shards, of which the last one has to do with two. -/
theorem eleven_spread_evenly :
    0 < 11 ∧ 0 < 4 ∧ ∃ c : Sharded Int64 String, create 11 4 = .ok c ∧ c.shardCount = 4 ∧
      c.shardCapacities = [3, 3, 3, 2] ∧ EvenSplit 11 4 [3, 3, 3, 2] ∧
      c.shardCapacities.foldlM Word.add 0 = .ok 11 ∧
      ∃ c' : Sharded Int64 String, create 13 4 = .ok c' ∧
        List.Forall₂ (· ≤ ·) c.shardCapacities c'.shardCapacities := by
  obtain ⟨c, created, _, count, _, split, _, blocks, words, grows⟩ :=
    capacity_spread_evenly (K := Int64) (V := String) (show 0 < 11 by decide)
      (show 0 < 4 by decide)
  obtain ⟨c', created', _, count', _⟩ :=
    capacity_spread_evenly (K := Int64) (V := String) (show 0 < 13 by decide)
      (show 0 < 4 by decide)
  have parts : c.shardCapacities = [3, 3, 3, 2] := blocks
  refine ⟨by decide, by decide, c, created, count, parts, parts ▸ split, ?_, c', created', ?_⟩
  · exact (words (by decide)).2
  · exact grows 13 4 c' (by decide) created' (count'.trans count.symm)

end CacheAside.Sharded
