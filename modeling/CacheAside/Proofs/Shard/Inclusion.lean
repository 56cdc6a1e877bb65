import CacheAside.Proofs.Shard.Events
import CacheAside.Proofs.Shard.Refinement

namespace CacheAside

structure Shard.Answer.ReportedBy {K V : Type} (a b : Shard.Answer K V) : Prop where
  value : ∀ value, a = .value (some value) → b = .value (some value)
  flag : a = .flag true → b = .flag true

theorem Shard.Answer.ReportedBy.of_le {K V : Type} {a b : Option V}
    (le : ∀ value, a = some value → b = some value) :
    ReportedBy (.value a : Shard.Answer K V) (.value b) := by
  refine ⟨?_, nofun⟩
  rintro value ⟨⟩
  rw [le value rfl]

namespace Lru

variable {K V : Type}

/-- The larger list has the pairs of the smaller one in the same order, and of the room that it has
    more it has used no more than there is. So it is full only where the smaller one is, and drops
    no pair that the smaller one keeps. -/
structure Covers (c₁ c₂ : Nat) (small large : Lru K V) : Prop where
  sublist : small.Sublist large
  spare : large.length + c₁ ≤ small.length + c₂

def roomy (l : Lru K V) (capacity : Nat) : Lru K V :=
  if l.length = capacity then l.dropLast else l

variable {c₁ c₂ capacity : Nat} {small large l : Lru K V} {entry : K × V} {key : K}

theorem dropLast_sublist_dropLast (sub : small.Sublist large) :
    List.Sublist small.dropLast large.dropLast := by
  rw [← List.reverse_sublist, ← List.tail_reverse, ← List.tail_reverse]
  exact sub.reverse.tail

theorem length_roomy (positive : 0 < capacity) (fits : l.length ≤ capacity) :
    (l.roomy capacity).length + 1 = min (l.length + 1) capacity := by
  unfold roomy
  split
  · rw [List.length_dropLast]
    omega
  · omega

theorem roomy_sublist (l : Lru K V) (capacity : Nat) : (l.roomy capacity).Sublist l := by
  unfold roomy
  split
  · exact List.dropLast_sublist l
  · exact List.Sublist.refl l

theorem Covers.roomy (covers : Covers c₁ c₂ small large) (fits : small.length ≤ c₁) :
    (small.roomy c₁).Sublist (large.roomy c₂) := by
  have spare := covers.spare
  by_cases full : large.length = c₂
  · have smallFull : small.length = c₁ := by omega
    rw [Lru.roomy, if_pos smallFull, Lru.roomy, if_pos full]
    exact dropLast_sublist_dropLast covers.sublist
  · rw [show large.roomy c₂ = large from if_neg full]
    exact (roomy_sublist small c₁).trans covers.sublist

theorem Covers.popOldest (covers : Covers c₁ c₂ small large) (le : c₁ ≤ c₂) :
    Covers c₁ c₂ small.dropLast large.dropLast := by
  have spare := covers.spare
  refine ⟨dropLast_sublist_dropLast covers.sublist, ?_⟩
  rw [List.length_dropLast, List.length_dropLast]
  omega

variable [BEq K]

theorem insert_fst (l : Lru K V) (capacity : Nat) (key : K) (value : V) :
    (l.insert capacity key value).1 = l.peek key := by
  unfold insert peek
  split
  · rename_i found
    rw [found]
    rfl
  · rename_i absent
    rw [absent]
    split_ifs <;> rfl

theorem contains_eq_isSome (l : Lru K V) (key : K) : l.contains key = (l.peek key).isSome := by
  rw [contains, peek, Option.isSome_map, pair?, List.isSome_find?]

theorem count_getHit_events (l : Lru K V) (capacity : Nat) (op : Shard.Op K V) :
    (l.events capacity op).count .getHit =
      match op with
      | .get key => if (l.peek key).isSome then 1 else 0
      | _ => 0 := by
  cases op with
  | get key =>
    simp only [events, peek, Option.isSome_map]
    split <;> rfl
  | insert key value =>
    simp only [events, evictions]
    split_ifs <;> rfl
  | remove key =>
    simp only [events]
    split_ifs <;> rfl
  | clear | popOldest | peek | peekOldest | rank | contains | metrics | hitRatio | describe => rfl

theorem insert_of_absent (absent : l.pair? key = none) (positive : 0 < capacity) (value : V) :
    l.insert capacity key value = (none, (key, value) :: l.roomy capacity) := by
  simp only [insert, absent, roomy, Nat.ne_of_gt positive, if_false]
  split <;> rfl

theorem length_insert_le (fits : l.length ≤ capacity) (key : K) (value : V) :
    (l.insert capacity key value).2.length ≤ capacity := by
  cases found : l.pair? key with
  | some pair =>
    have fewer := length_without found
    simp only [insert, found, List.length_cons]
    omega
  | none =>
    by_cases positive : 0 < capacity
    · have room := length_roomy positive fits
      rw [insert_of_absent found positive, List.length_cons]
      omega
    · rw [Nat.eq_zero_of_not_pos positive] at fits ⊢
      simpa only [insert, found, if_true] using fits

/-- A key that the smaller list lacks may leave the larger one. -/
theorem Covers.sublist_without (covers : Covers c₁ c₂ small large)
    (absent : small.pair? key = none) : small.Sublist (large.without key) := by
  have sub : (small.without key).Sublist (large.without key) := covers.sublist.eraseP
  rwa [without_of_absent absent] at sub

variable [LawfulBEq K]

theorem Covers.pair? (covers : Covers c₁ c₂ small large) (distinct : large.Distinct)
    (found : small.pair? key = some entry) : large.pair? key = some entry := by
  obtain ⟨same, front, back, shape, _⟩ := pair?_eq_some found
  have member : entry ∈ large := covers.sublist.subset (by simp [shape])
  obtain ⟨front', back', rfl⟩ := List.append_of_mem member
  rw [← eq_of_beq same]
  exact distinct.pair?_self

theorem Covers.peek (covers : Covers c₁ c₂ small large) (distinct : large.Distinct) {value : V}
    (found : small.peek key = some value) : large.peek key = some value := by
  obtain ⟨pair, here, rfl⟩ := Option.map_eq_some_iff.mp found
  rw [Lru.peek, covers.pair? distinct here]
  rfl

theorem Covers.without (covers : Covers c₁ c₂ small large) (distinct : large.Distinct) (key : K) :
    Covers c₁ c₂ (small.without key) (large.without key) := by
  have spare := covers.spare
  refine ⟨covers.sublist.eraseP, ?_⟩
  cases found : small.pair? key with
  | some pair =>
    have fewer := length_without found
    have fewer' := length_without (covers.pair? distinct found)
    omega
  | none =>
    have fewer : (large.without key).length ≤ large.length := List.eraseP_sublist.length_le
    rw [without_of_absent found]
    omega

theorem Covers.toFront (covers : Covers c₁ c₂ small large) (distinct : large.Distinct)
    (value : V) : Covers c₁ c₂ ((key, value) :: small.without key)
      ((key, value) :: large.without key) := by
  have rest := covers.without distinct key
  have spare := rest.spare
  refine ⟨rest.sublist.cons_cons _, ?_⟩
  rw [List.length_cons, List.length_cons]
  omega

theorem Covers.get (covers : Covers c₁ c₂ small large) (distinct : large.Distinct) (key : K) :
    Covers c₁ c₂ (small.get key).2 (large.get key).2 := by
  cases found : small.pair? key with
  | some pair =>
    have found' := covers.pair? distinct found
    obtain rfl : pair.1 = key := eq_of_beq (pair?_eq_some found).1
    simp only [Lru.get, found, found']
    exact covers.toFront distinct pair.2
  | none =>
    cases found' : large.pair? key with
    | none =>
      simp only [Lru.get, found, found']
      exact covers
    | some pair =>
      have fewer := length_without found'
      have spare := covers.spare
      simp only [Lru.get, found, found']
      refine ⟨(covers.sublist_without found).cons _, ?_⟩
      rw [List.length_cons]
      omega

/-- A key that is new to the smaller list takes room there, and in the larger one it takes room or
    comes from its place. -/
theorem Covers.insert_of_absent (covers : Covers c₁ c₂ small large) (le : c₁ ≤ c₂)
    (fits₁ : small.length ≤ c₁) (fits₂ : large.length ≤ c₂) (absent : small.pair? key = none)
    (positive : 0 < c₁) (value : V) :
    Covers c₁ c₂ ((key, value) :: small.roomy c₁) (large.insert c₂ key value).2 := by
  have spare := covers.spare
  have room := length_roomy positive fits₁
  cases found : large.pair? key with
  | some pair =>
    obtain rfl : pair.1 = key := eq_of_beq (pair?_eq_some found).1
    have fewer := length_without found
    have sub := (roomy_sublist small c₁).trans (covers.sublist_without absent)
    simp only [Lru.insert, found]
    refine ⟨sub.cons_cons _, ?_⟩
    rw [List.length_cons, List.length_cons]
    omega
  | none =>
    have room' := length_roomy (Nat.lt_of_lt_of_le positive le) fits₂
    rw [Lru.insert_of_absent found (Nat.lt_of_lt_of_le positive le)]
    refine ⟨(covers.roomy fits₁).cons_cons _, ?_⟩
    rw [List.length_cons, List.length_cons]
    omega

theorem Covers.insert (covers : Covers c₁ c₂ small large) (distinct : large.Distinct)
    (le : c₁ ≤ c₂) (fits₁ : small.length ≤ c₁) (fits₂ : large.length ≤ c₂) (key : K) (value : V) :
    Covers c₁ c₂ (small.insert c₁ key value).2 (large.insert c₂ key value).2 := by
  cases found : small.pair? key with
  | some pair =>
    have found' := covers.pair? distinct found
    obtain rfl : pair.1 = key := eq_of_beq (pair?_eq_some found).1
    simp only [Lru.insert, found, found']
    exact covers.toFront distinct value
  | none =>
    by_cases positive : 0 < c₁
    · rw [Lru.insert_of_absent found positive]
      exact covers.insert_of_absent le fits₁ fits₂ found positive value
    · have fits := length_insert_le fits₂ key value
      obtain rfl := Nat.eq_zero_of_not_pos positive
      obtain rfl := List.length_eq_zero_iff.mp (Nat.le_zero.mp fits₁)
      have refused : (Lru.insert [] 0 key value).2 = [] := rfl
      rw [refused]
      exact ⟨List.nil_sublist _, by rwa [List.length_nil, Nat.add_zero, Nat.zero_add]⟩

theorem Covers.reports (covers : Covers c₁ c₂ small large) (distinct : large.Distinct)
    (op : Shard.Op K V) {a b : Shard.Answer K V} (answered₁ : (small.step c₁ op).1 = some a)
    (answered₂ : (large.step c₂ op).1 = some b) : a.ReportedBy b := by
  have shown (key : K) : Shard.Answer.ReportedBy (.value (small.peek key) : Shard.Answer K V)
      (.value (large.peek key)) :=
    .of_le fun value found => covers.peek distinct found
  cases op with
  | insert key value =>
    cases answered₁
    cases answered₂
    rw [insert_fst, insert_fst]
    exact shown key
  | get key =>
    cases answered₁
    cases answered₂
    rw [get_fst, get_fst]
    exact shown key
  | peek key | remove key =>
    cases answered₁
    cases answered₂
    exact shown key
  | contains key =>
    cases answered₁
    cases answered₂
    rw [contains_eq_isSome, contains_eq_isSome]
    refine ⟨nofun, ?_⟩
    intro held
    obtain ⟨value, found⟩ := Option.isSome_iff_exists.mp (Shard.Answer.flag.inj held)
    rw [covers.peek distinct found]
    rfl
  | popOldest | peekOldest | rank | clear =>
    cases answered₁
    exact ⟨nofun, nofun⟩
  | metrics | hitRatio | describe => cases answered₁

theorem Covers.getHits (covers : Covers c₁ c₂ small large) (distinct : large.Distinct)
    (op : Shard.Op K V) :
    (small.events c₁ op).count .getHit ≤ (large.events c₂ op).count .getHit := by
  rw [count_getHit_events, count_getHit_events]
  cases op with
  | get key =>
    simp only
    split
    · rename_i held
      obtain ⟨value, found⟩ := Option.isSome_iff_exists.mp held
      rw [covers.peek distinct found]
      exact Nat.le_refl 1
    · exact Nat.zero_le _
  | _ => exact Nat.le_refl 0

theorem Covers.step (covers : Covers c₁ c₂ small large) (distinct : large.Distinct) (le : c₁ ≤ c₂)
    (fits₁ : small.length ≤ c₁) (fits₂ : large.length ≤ c₂) (op : Shard.Op K V) :
    Covers c₁ c₂ (small.step c₁ op).2 (large.step c₂ op).2 := by
  cases op with
  | insert key value => exact covers.insert distinct le fits₁ fits₂ key value
  | get key => exact covers.get distinct key
  | remove key => exact covers.without distinct key
  | popOldest => exact covers.popOldest le
  | clear => exact ⟨List.Sublist.refl _, Nat.add_le_add_left le _⟩
  | peek | peekOldest | rank | contains | metrics | hitRatio | describe => exact covers

end Lru

namespace Shard

variable {K V : Type} [BEq K] [Hashable K]

/-- The larger shard has the keys of the smaller one in the same order of use and with the same
    values, is longer by `spare` at most, and has counted as many hits. -/
structure Includes (spare : Nat) (large small : Shard K V) : Prop where
  keys : small.keys.Sublist large.keys
  peek : ∀ key value, small.peek key = some value → large.peek key = some value
  len : large.len ≤ small.len + spare
  getHits : small.events.getHits ≤ large.events.getHits

structure Covers (small large : Shard K V) : Prop where
  intact : ∃ l₁ l₂, small.Models l₁ ∧ large.Models l₂ ∧
    Lru.Covers small.capacity large.capacity l₁ l₂
  capacity : small.capacity ≤ large.capacity
  getHits : small.events.getHits ≤ large.events.getHits

variable {small large s₁ s₂ : Shard K V} {op : Op K V} {ops : List (Op K V)} {a₁ a₂ : Answer K V}

theorem Covers.create {c₁ c₂ : Nat} (le : c₁ ≤ c₂) :
    (create c₁ : Shard K V).Covers (create c₂) where
  intact := ⟨[], [], .create c₁, .create c₂, List.Sublist.refl _, Nat.add_le_add_left le _⟩
  capacity := le
  getHits := Nat.le_refl 0

variable [LawfulBEq K]

theorem Covers.includes (covers : small.Covers large) :
    large.Includes (large.capacity - small.capacity) small := by
  obtain ⟨l₁, l₂, m₁, m₂, lists⟩ := covers.intact
  have spare := lists.spare
  have le := covers.capacity
  refine ⟨?_, ?_, ?_, covers.getHits⟩
  · rw [m₁.keys, m₂.keys]
    exact lists.sublist.map Prod.fst
  · intro key value found
    rw [m₁.peek] at found
    rw [m₂.peek]
    exact lists.peek m₂.distinct found
  · rw [m₁.len, m₂.len]
    omega

theorem Covers.step (covers : small.Covers large) (entries : op.onEntries = true)
    (stepped₁ : small.step op = .ok (a₁, s₁)) (stepped₂ : large.step op = .ok (a₂, s₂)) :
    s₁.Covers s₂ ∧ s₁.capacity = small.capacity ∧ s₂.capacity = large.capacity ∧
      a₁.ReportedBy a₂ := by
  obtain ⟨l₁, l₂, m₁, m₂, lists⟩ := covers.intact
  obtain ⟨same₁, reached₁⟩ := (m₁.step op entries).of_ok stepped₁
  obtain ⟨same₂, reached₂⟩ := (m₂.step op entries).of_ok stepped₂
  have fits₁ := m₁.len ▸ m₁.len_le
  have fits₂ := m₂.len ▸ m₂.len_le
  refine ⟨⟨⟨_, _, reached₁.models, reached₂.models, ?_⟩, ?_, ?_⟩, reached₁.capacity,
    reached₂.capacity, lists.reports m₂.distinct op same₁ same₂⟩
  · rw [reached₁.capacity, reached₂.capacity]
    exact lists.step m₂.distinct covers.capacity fits₁ fits₂ op
  · rw [reached₁.capacity, reached₂.capacity]
    exact covers.capacity
  · have counted₁ := CacheEvents.count_tallyAll small.events (l₁.events small.capacity op) .getHit
    have counted₂ := CacheEvents.count_tallyAll large.events (l₂.events large.capacity op) .getHit
    rw [← reached₁.events] at counted₁
    rw [← reached₂.events] at counted₂
    have more := lists.getHits m₂.distinct op
    have before := covers.getHits
    simp only [CacheEvents.count] at counted₁ counted₂
    omega

omit [LawfulBEq K] in
theorem create_runs [EquivBEq K] [LawfulHashable K] (capacity : Nat)
    (entries : ∀ op ∈ ops, op.onEntries = true) (short : ops.length < Word.bound) :
    ∃ steps, (Shard.create capacity : Shard K V).run ops = .ok steps := by
  have counts : ∀ event, (Shard.create capacity : Shard K V).events.count event ≤ 0 := by
    intro event
    cases event <;> exact Nat.le_refl 0
  obtain ⟨steps, ran, _⟩ := (Models.create capacity).run ops entries counts (by omega)
  exact ⟨steps, ran⟩

theorem Covers.run {steps₁ steps₂ : List (Answer K V × Shard K V)} (covers : small.Covers large)
    (entries : ∀ op ∈ ops, op.onEntries = true) (ran₁ : small.run ops = .ok steps₁)
    (ran₂ : large.run ops = .ok steps₂) :
    List.Forall₂ (fun x y => x.1.ReportedBy y.1 ∧
      y.2.Includes (large.capacity - small.capacity) x.2) steps₁ steps₂ := by
  -- The two runs are compared step by step, and `Covers` is what holds between their shards.
  induction ops generalizing small large steps₁ steps₂ with
  | nil =>
    cases ran₁
    cases ran₂
    exact .nil
  | cons op ops ih =>
    obtain ⟨⟨a₁, s₁⟩, stepped₁, more₁⟩ := eq_ok_of_bind ran₁
    obtain ⟨⟨a₂, s₂⟩, stepped₂, more₂⟩ := eq_ok_of_bind ran₂
    obtain ⟨rest₁, onward₁, same₁⟩ := eq_ok_of_bind more₁
    obtain ⟨rest₂, onward₂, same₂⟩ := eq_ok_of_bind more₂
    cases same₁
    cases same₂
    obtain ⟨covers', capacity₁, capacity₂, reported⟩ :=
      covers.step (entries op List.mem_cons_self) stepped₁ stepped₂
    have rest := ih covers' (fun op member => entries op (List.mem_cons_of_mem _ member)) onward₁
      onward₂
    have first := covers'.includes
    rw [capacity₁, capacity₂] at rest first
    exact .cons ⟨reported, first⟩ rest

end Shard

end CacheAside
