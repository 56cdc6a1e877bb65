import CacheAside.Proofs.Cache.Counters
import CacheAside.Proofs.Cache.Reachable

namespace CacheAside

namespace Shard

variable {K V : Type} [BEq K] [Hashable K] {s s' s'' : Shard K V}

structure Onward (s s' : Shard K V) : Prop where
  intact : s'.Intact
  capacity : s'.capacity = s.capacity
  counted : ∀ event, s.events.count event ≤ s'.events.count event

structure Makes (s : Shard K V) (added : K → V → Prop) (s' : Shard K V) : Prop where
  onward : s.Onward s'
  entries : ∀ key value, s'.peek key = some value → s.peek key = some value ∨ added key value

theorem Onward.refl (intact : s.Intact) : s.Onward s := ⟨intact, rfl, fun _ => Nat.le_refl _⟩

theorem Onward.trans (first : s.Onward s') (second : s'.Onward s'') : s.Onward s'' :=
  ⟨second.intact, second.capacity.trans first.capacity,
    fun event => Nat.le_trans (first.counted event) (second.counted event)⟩

theorem Makes.mono {added added' : K → V → Prop} (makes : s.Makes added s')
    (implied : ∀ key value, added key value → added' key value) : s.Makes added' s' :=
  ⟨makes.onward, fun key value present => (makes.entries key value present).imp_right
    (implied key value)⟩

theorem Reaches.onward {l : Lru K V} {events : List CacheEvent} (reached : s.Reaches l events s') :
    s.Onward s' := by
  refine ⟨⟨l, reached.models⟩, reached.capacity, fun event => ?_⟩
  rw [reached.events, CacheEvents.count_tallyAll]
  exact Nat.le_add_right _ _

theorem clear_makes (cleared : s.clear = .ok s') :
    s.Makes (fun _ _ => False) s' ∧ ∀ key, s'.peek key = none := by
  have reached := (clear_reaches s).of_ok cleared
  have empty : ∀ key, s'.peek key = none := reached.models.peek
  refine ⟨⟨reached.onward, ?_⟩, empty⟩
  intro key value present
  rw [empty] at present
  cases present

variable [LawfulBEq K] {key : K}

theorem Intact.insert_makes (intact : s.Intact) {value : V} {old : Option V}
    (inserted : s.insert key value = .ok (old, s')) :
    s.Makes (fun key' value' => key' = key ∧ value' = value) s' := by
  have kept := ((intact.insert key value).of_ok inserted).2
  obtain ⟨l, m⟩ := intact
  refine ⟨((m.insert key value).of_ok inserted).2.onward, ?_⟩
  intro key' value' present
  rcases kept key' value' present with ⟨same, rfl⟩ | before
  · exact .inr ⟨(eq_of_beq same).symm, rfl⟩
  · exact .inl before

theorem Intact.get_makes (intact : s.Intact) {found : Option V}
    (got : s.get key = .ok (found, s')) : s.Makes (fun _ _ => False) s' := by
  have kept := ((intact.get key).of_ok got).2.2
  obtain ⟨l, m⟩ := intact
  exact ⟨((m.get key).of_ok got).2.onward, fun key' _ present => .inl (kept key' ▸ present)⟩

theorem Intact.remove_makes (intact : s.Intact) {found : Option V}
    (removed : s.remove key = .ok (found, s')) : s.Makes (fun _ _ => False) s' := by
  have dropped := ((intact.remove key).of_ok removed).2
  obtain ⟨l, m⟩ := intact
  refine ⟨((m.remove key).of_ok removed).2.onward, ?_⟩
  intro key' value' present
  rw [dropped] at present
  split at present
  · cases present
  · exact .inl present

theorem Intact.keys (intact : s.Intact) :
    s.keys.Nodup ∧ s.keys.length = s.len ∧ ∀ key, key ∈ s.keys ↔ s.contains key = true := by
  obtain ⟨l, m⟩ := intact
  refine ⟨?_, ?_, ?_⟩
  · rw [m.keys]
    exact List.pairwise_map.mpr (m.distinct.imp fun other => by simpa using other)
  · rw [m.keys, m.len, List.length_map]
  · intro key
    rw [m.keys, m.contains, Lru.contains]
    simp

end Shard

namespace Sharded

variable {K V : Type} [BEq K] [Hashable K]

/-- What a thread does to a cache while it holds the lock of one shard. A thread that clears the
    cache takes such a turn for every shard, one after another. -/
inductive Turn (K V : Type) where
  | put (key : K) (value : V)
  | get (key : K)
  | remove (key : K)
  | clearShard (index : Nat)

def clearShard (c : Sharded K V) (index : Nat) : Except Fault (Sharded K V) :=
  match c.shards[index]? with
  | some s => do return { c with shards := c.shards.setIfInBounds index (← s.clear) }
  | none => .error (.outOfBounds index c.shards.size)

structure Replaced (c : Sharded K V) (index : Nat) (s s' : Shard K V) (c' : Sharded K V) :
    Prop where
  here : c.shards.toList[index]? = some s
  shards : c'.shards.toList = c.shards.toList.set index s'
  router : c'.router = c.router
  capacity : c'.capacity = c.capacity

variable {c c' : Sharded K V} {index : Nat} {s s' : Shard K V}

theorem Replaced.mem (replaced : c.Replaced index s s' c') : s ∈ c.shards.toList :=
  List.mem_of_getElem? replaced.here

theorem Replaced.length (replaced : c.Replaced index s s' c') :
    c'.shards.toList.length = c.shards.toList.length := by
  rw [replaced.shards, List.length_set]

/-- What the new shard shares with the old one, the caches share. -/
theorem Replaced.map_shards {α : Type} {f : Shard K V → α} (replaced : c.Replaced index s s' c')
    (same : f s' = f s) : c'.shards.toList.map f = c.shards.toList.map f := by
  obtain ⟨bound, here⟩ := List.getElem?_eq_some_iff.mp replaced.here
  rw [replaced.shards, List.map_set, same, ← here, ← List.getElem_map f, List.set_getElem_self]
  rwa [List.length_map]

theorem Replaced.onward (replaced : c.Replaced index s s' c') (onward : s.Onward s')
    (intact : ∀ t ∈ c.shards.toList, t.Intact) :
    List.Forall₂ Shard.Onward c.shards.toList c'.shards.toList := by
  refine List.forall₂_of_length_eq_of_get replaced.length.symm ?_
  intro i bound bound'
  obtain ⟨_, here⟩ := List.getElem?_eq_some_iff.mp replaced.here
  simp only [List.get_eq_getElem, replaced.shards, List.getElem_set]
  by_cases same : index = i
  · subst same
    rw [if_pos rfl, here]
    exact onward
  · rw [if_neg same]
    exact .refl (intact _ (List.getElem_mem bound))

theorem Replaced.eq_self (replaced : c.Replaced index s s c') : c' = c := by
  obtain ⟨bound, here⟩ := List.getElem?_eq_some_iff.mp replaced.here
  have shards := replaced.shards
  rw [← here, List.set_getElem_self] at shards
  obtain ⟨parts, router, capacity⟩ := c
  obtain ⟨parts', router', capacity'⟩ := c'
  cases Array.toList_inj.mp shards
  cases replaced.router
  cases replaced.capacity
  rfl

/-- A shard afterwards is the one that was replaced, or one that was there before. -/
theorem Replaced.getElem? (replaced : c.Replaced index s s' c') {i : Nat} {t : Shard K V}
    (found : c'.shards.toList[i]? = some t) :
    i = index ∧ t = s' ∨ i ≠ index ∧ c.shards.toList[i]? = some t := by
  rw [replaced.shards, List.getElem?_set] at found
  by_cases same : index = i
  · obtain ⟨bound, _⟩ := List.getElem?_eq_some_iff.mp replaced.here
    subst same
    rw [if_pos rfl, if_pos bound] at found
    cases found
    exact .inl ⟨rfl, rfl⟩
  · rw [if_neg same] at found
    exact .inr ⟨Ne.symm same, found⟩

theorem replaced_set {shards : Array (Shard K V)} (here : c.shards[index]? = some s)
    (same : shards = c.shards.setIfInBounds index s') :
    c.Replaced index s s' { c with shards } := by
  subst same
  exact ⟨by rwa [Array.getElem?_toList], Array.toList_setIfInBounds, rfl, rfl⟩

theorem clearShard_replaces (cleared : c.clearShard index = .ok c') :
    ∃ s s', s.clear = .ok s' ∧ c.Replaced index s s' c' := by
  unfold clearShard at cleared
  split at cleared
  · rename_i s here
    obtain ⟨s', done, same⟩ := eq_ok_of_bind cleared
    cases same
    exact ⟨s, s', done, replaced_set here rfl⟩
  · cases cleared

variable [ByteStream K] {key : K}

def turn (c : Sharded K V) : Turn K V → Except Fault (Sharded K V)
  | .put key value => c.put key value
  | .get key => do return (← c.get key).2
  | .remove key => do return (← c.remove key).2
  | .clearShard index => c.clearShard index

/-- What always holds of a cache that many threads use: its shards are sound and have its capacity
    between them, and each holds only keys that are routed to it. -/
structure Steady (c : Sharded K V) : Prop where
  intact : ∀ s ∈ c.shards.toList, s.Intact
  routed : ∀ key, c.shardIndex key < c.shards.toList.length
  shares : (c.shards.toList.map Shard.capacity).sum = c.capacity
  fits : c.capacity < Word.bound
  homed : ∀ index s, c.shards.toList[index]? = some s → ∀ key value, s.peek key = some value →
    c.shardIndex key = index

theorem Replaced.shardIndex (replaced : c.Replaced index s s' c') (key : K) :
    c'.shardIndex key = c.shardIndex key := by
  rw [Sharded.shardIndex, Sharded.shardIndex, replaced.router]

theorem Replaced.steady (replaced : c.Replaced index s s' c') (steady : c.Steady)
    {added : K → V → Prop} (makes : s.Makes added s')
    (homed : ∀ key value, added key value → c.shardIndex key = index) : c'.Steady := by
  refine ⟨?_, ?_, ?_, replaced.capacity ▸ steady.fits, ?_⟩
  · intro t member
    rw [replaced.shards] at member
    rcases List.mem_or_eq_of_mem_set member with member | rfl
    · exact steady.intact t member
    · exact makes.onward.intact
  · intro key
    rw [replaced.shardIndex, replaced.length]
    exact steady.routed key
  · rw [replaced.map_shards makes.onward.capacity, replaced.capacity]
    exact steady.shares
  · intro i t found key value present
    rw [replaced.shardIndex]
    rcases replaced.getElem? found with ⟨rfl, rfl⟩ | ⟨_, found⟩
    · rcases makes.entries key value present with before | new
      · exact steady.homed i s replaced.here key value before
      · exact homed key value new
    · exact steady.homed i t found key value present

theorem shardOf_eq_ok (found : c.shardOf key = .ok s) : c.shards[c.shardIndex key]? = some s := by
  unfold shardOf at found
  split at found
  · cases found
    assumption
  · cases found

theorem withShard_replaces (found : c.shardOf key = .ok s) (s' : Shard K V) :
    c.Replaced (c.shardIndex key) s s' (c.withShard key s') :=
  replaced_set (shardOf_eq_ok found) rfl

theorem create_steady {capacity shards : Nat} (created : create capacity shards = .ok c)
    (fits : capacity < Word.bound) :
    c.Steady ∧ c.capacity = capacity ∧ ∀ event, (Cache.sharded c).tally event = 0 := by
  have built : Cache.build capacity (.sharded shards) = .ok (.sharded c) := by
    rw [Cache.build, created]
    rfl
  have parts := (Cache.build_shards built).1
  have wf := (Cache.build_wellFormed built).1
  obtain ⟨counts, _, shares⟩ := Cache.build_counters built
  have same : c.capacity = capacity := by
    unfold create at created
    split_ifs at created
    cases created
    rfl
  refine ⟨⟨wf.intact, wf.routed, shares.trans same.symm, same ▸ fits, ?_⟩, same, counts⟩
  intro index s found key value present
  have member : s ∈ (Cache.sharded c).shards := List.mem_of_getElem? found
  rw [parts] at member
  obtain ⟨room, _, rfl⟩ := List.mem_map.mp member
  rw [(Shard.Models.create room).peek] at present
  cases present

theorem Steady.home (steady : c.Steady) (key : K) :
    ∃ s, c.shards.toList[c.shardIndex key]? = some s ∧ c.shardOf key = .ok s := by
  have here := List.getElem?_eq_getElem (steady.routed key)
  refine ⟨_, here, ?_⟩
  rw [Array.getElem?_toList] at here
  rw [shardOf, here]

theorem Steady.len_le (steady : c.Steady) :
    (c.shards.toList.map Shard.len).sum ≤ c.capacity := by
  rw [← steady.shares]
  refine List.sum_le_sum ?_
  intro s member
  obtain ⟨l, m⟩ := steady.intact s member
  exact m.len_le

theorem Steady.clear_empties (steady : c.Steady)
    (room : (Cache.sharded c).tally .clearing + 1 < Word.bound) :
    ∃ c', c.clear = .ok c' ∧ c'.len = .ok 0 ∧ ∀ key, c'.peek key = .ok none := by
  have notFull : ¬ (Cache.sharded c).Full [.clearing] := by
    refine (Cache.within_tally _).not_full fun event member => ?_
    cases List.mem_singleton.mp member
    exact room
  obtain ⟨_, done, reached, _⟩ := (Cache.clear_yields (.sharded c)).returns notFull
  obtain ⟨c', cleared, same⟩ := eq_ok_of_bind done
  cases same
  have empty : ∀ s ∈ c'.shards.toList, s.Models [] := by
    intro s member
    obtain ⟨i, bound, rfl⟩ := List.mem_iff_getElem.mp member
    exact (reached.get (reached.length_eq ▸ bound) bound).2.models
  refine ⟨c', cleared, ?_, ?_⟩
  · have lens : c'.shards.toList.map Shard.len = c'.shards.toList.map fun _ => 0 :=
      List.map_congr_left fun s member => (empty s member).len
    have none : (c'.shards.toList.map fun _ => 0).sum = 0 := by simp
    rw [len, lens, Word.foldlM_add (by rw [none]; decide), none]
  · intro key
    have wf : (Cache.sharded c').WellFormed :=
      (Cache.WellFormed.clear ⟨steady.intact, steady.routed⟩).of_ok done
    obtain ⟨s, member, home⟩ := wf.home key
    have shown : c'.peek key = .ok ((Cache.sharded c').view key) := wf.peek key
    rw [shown, Cache.view_of_home home, (empty s member).peek]
    rfl

variable [LawfulBEq K] {t : Turn K V}

theorem Steady.index_of_mem (steady : c.Steady) (here : c.shards.toList[index]? = some s)
    (listed : key ∈ s.keys) : c.shardIndex key = index := by
  have held := ((steady.intact s (List.mem_of_getElem? here)).keys.2.2 key).mp listed
  rw [s.contains_eq_isSome_peek] at held
  obtain ⟨value, present⟩ := Option.isSome_iff_exists.mp held
  exact steady.homed index s here key value present

/-- The length of a cache is the number of its keys. A key is held by one shard only, so that none
    is counted twice. -/
theorem Steady.len_exact (steady : c.Steady) :
    ∃ keys : List K, keys.Nodup ∧ (∀ key, key ∈ keys ↔ c.contains key = .ok true) ∧
      c.len = .ok keys.length := by
  refine ⟨c.shards.toList.flatMap Shard.keys, ?_, ?_, ?_⟩
  · refine List.pairwise_flatMap.mpr ⟨fun s member => (steady.intact s member).keys.1, ?_⟩
    rw [List.pairwise_iff_getElem]
    intro i j boundᵢ boundⱼ before key listedᵢ _ listedⱼ
    rintro rfl
    have atᵢ := steady.index_of_mem (List.getElem?_eq_getElem boundᵢ) listedᵢ
    have atⱼ := steady.index_of_mem (List.getElem?_eq_getElem boundⱼ) listedⱼ
    omega
  · intro key
    obtain ⟨home, here, found⟩ := steady.home key
    have member := List.mem_of_getElem? here
    have asked : c.contains key = .ok (home.contains key) := by
      rw [Sharded.contains, found]
      rfl
    rw [asked, List.mem_flatMap, Except.ok.injEq, ← (steady.intact home member).keys.2.2 key]
    constructor
    · rintro ⟨s, present, listed⟩
      obtain ⟨i, there⟩ := List.getElem?_of_mem present
      obtain rfl := steady.index_of_mem there listed
      cases here.symm.trans there
      exact listed
    · exact fun listed => ⟨home, member, listed⟩
  · have counted : (c.shards.toList.map fun s => s.keys.length) = c.shards.toList.map Shard.len :=
      List.map_congr_left fun s member => (steady.intact s member).keys.2.1
    have fits := Nat.lt_of_le_of_lt steady.len_le steady.fits
    rw [len, Word.foldlM_add (by simpa using fits), List.length_flatMap, counted, Nat.zero_add]

/-- A turn reaches one shard, where it adds what it puts. -/
theorem Steady.turn_replaces (steady : c.Steady) (took : c.turn t = .ok c') :
    ∃ index s s', c.Replaced index s s' c' ∧
      s.Makes (fun key value => t = .put key value ∧ c.shardIndex key = index) s' := by
  cases t with
  | put key value =>
    obtain ⟨s, found, rest⟩ := eq_ok_of_bind took
    obtain ⟨⟨old, s'⟩, inserted, same⟩ := eq_ok_of_bind rest
    cases same
    have replaced := withShard_replaces found s'
    refine ⟨_, s, s', replaced, ((steady.intact s replaced.mem).insert_makes inserted).mono ?_⟩
    rintro key' value' ⟨rfl, rfl⟩
    exact ⟨rfl, rfl⟩
  | get key =>
    obtain ⟨⟨value, c₁⟩, got, same⟩ := eq_ok_of_bind took
    cases same
    obtain ⟨s, found, rest⟩ := eq_ok_of_bind got
    obtain ⟨⟨value', s'⟩, served, same⟩ := eq_ok_of_bind rest
    cases same
    have replaced := withShard_replaces found s'
    exact ⟨_, s, s', replaced,
      ((steady.intact s replaced.mem).get_makes served).mono fun _ _ => False.elim⟩
  | remove key =>
    obtain ⟨⟨value, c₁⟩, removed, same⟩ := eq_ok_of_bind took
    cases same
    obtain ⟨s, found, rest⟩ := eq_ok_of_bind removed
    obtain ⟨⟨value', s'⟩, served, same⟩ := eq_ok_of_bind rest
    cases same
    have replaced := withShard_replaces found s'
    exact ⟨_, s, s', replaced,
      ((steady.intact s replaced.mem).remove_makes served).mono fun _ _ => False.elim⟩
  | clearShard index =>
    obtain ⟨s, s', cleared, replaced⟩ := clearShard_replaces took
    exact ⟨index, s, s', replaced, (Shard.clear_makes cleared).1.mono fun _ _ => False.elim⟩

/-- A turn returns where it counts no event past the end of a word. -/
theorem Steady.turn_returns (steady : c.Steady) (t : Turn K V)
    (there : ∀ index, t = .clearShard index → index < c.shardCount)
    (room : ∀ event, (Cache.sharded c).tally event + 1 < Word.bound) :
    ∃ c', c.turn t = .ok c' := by
  have wf : (Cache.sharded c).WellFormed := ⟨steady.intact, steady.routed⟩
  have roomy : ∀ kinds, ¬ (Cache.sharded c).Full kinds :=
    fun kinds => (Cache.within_tally _).not_full fun event _ => room event
  cases t with
  | put key value =>
    obtain ⟨_, done, _⟩ := (wf.put key value).returns (roomy _)
    obtain ⟨c', put, _⟩ := eq_ok_of_bind done
    exact ⟨c', put⟩
  | get key =>
    obtain ⟨_, done, _⟩ := (wf.get key).returns (roomy _)
    obtain ⟨result, got, _⟩ := eq_ok_of_bind done
    exact ⟨result.2, by rw [Sharded.turn, got]; rfl⟩
  | remove key =>
    obtain ⟨_, done, _⟩ := (wf.remove key).returns (roomy _)
    obtain ⟨result, removed, _⟩ := eq_ok_of_bind done
    exact ⟨result.2, by rw [Sharded.turn, removed]; rfl⟩
  | clearShard index =>
    obtain ⟨s, here⟩ : ∃ s, c.shards[index]? = some s :=
      ⟨_, Array.getElem?_eq_getElem (there index rfl)⟩
    have member : s ∈ (Cache.sharded c).shards :=
      List.mem_of_getElem? ((Array.getElem?_toList).trans here)
    obtain ⟨s', cleared, _⟩ :=
      (Shard.clear_reaches s).returns fun full => roomy _ ⟨s, member, full⟩
    exact ⟨_, by simp only [Sharded.turn, clearShard, here, cleared]; rfl⟩

theorem Steady.turn (steady : c.Steady) (took : c.turn t = .ok c') : c'.Steady := by
  obtain ⟨index, s, s', replaced, makes⟩ := steady.turn_replaces took
  exact replaced.steady steady makes fun _ _ new => new.2

end Sharded

end CacheAside
