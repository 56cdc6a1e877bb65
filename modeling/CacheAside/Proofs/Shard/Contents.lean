import CacheAside.Proofs.Shard.Models

namespace CacheAside

def CacheEvent.lookups : List CacheEvent := [.getHit, .getMiss]

def CacheEvent.arrivals : List CacheEvent := [.insertNew, .insertUpdate, .eviction]

def CacheEvent.departures : List CacheEvent := [.removal]

namespace Lru

variable {K V : Type} [BEq K] {l : Lru K V} {key key' : K} {value value' : V}

theorem get_fst (l : Lru K V) (key : K) : (l.get key).1 = l.peek key := by
  unfold get peek
  cases l.pair? key <;> rfl

theorem pair?_of_dropLast {pair : K × V} (found : Lru.pair? l.dropLast key = some pair) :
    l.pair? key = some pair := by
  rcases List.eq_nil_or_concat' l with rfl | ⟨front, last, rfl⟩
  · cases found
  · rw [List.dropLast_concat] at found
    rw [pair?, List.find?_append, show List.find? _ front = some pair from found, Option.some_or]

theorem peek_of_dropLast (found : Lru.peek l.dropLast key = some value) :
    l.peek key = some value := by
  obtain ⟨pair, here, rfl⟩ := Option.map_eq_some_iff.mp found
  rw [peek, pair?_of_dropLast here]
  rfl

theorem peek_cons (key : K) (value : V) (l : Lru K V) (key' : K) :
    Lru.peek ((key, value) :: l) key' = if key == key' then some value else l.peek key' := by
  rw [peek, pair?_cons]
  split <;> rfl

variable [EquivBEq K]

theorem peek_toFront {pair : K × V} (found : l.pair? key = some pair) (value : V) (key' : K) :
    Lru.peek ((pair.1, value) :: l.without key) key' =
      if key == key' then some value else l.peek key' := by
  rw [peek, pair?_toFront found]
  split <;> rfl

theorem peek_get (l : Lru K V) (key key' : K) : Lru.peek (l.get key).2 key' = l.peek key' := by
  unfold get
  cases found : l.pair? key with
  | none => rfl
  | some pair =>
    have toFront := peek_toFront found pair.2 key'
    rw [show ((pair.1, pair.2) : K × V) = pair from rfl] at toFront
    rw [toFront]
    split
    · rename_i same
      rw [peek, ← pair?_congr same, found]
      rfl
    · rfl

theorem peek_insert {capacity : Nat}
    (found : Lru.peek (l.insert capacity key value).2 key' = some value') :
    (key == key') = true ∧ value' = value ∨ l.peek key' = some value' := by
  have inFront : ∀ rest : Lru K V, (∀ w, rest.peek key' = some w → l.peek key' = some w) →
      (if key == key' then some value else rest.peek key') = some value' →
      (key == key') = true ∧ value' = value ∨ l.peek key' = some value' := by
    intro rest kept found
    split at found
    · exact .inl ⟨‹_›, (Option.some.inj found).symm⟩
    · exact .inr (kept _ found)
  unfold insert at found
  split at found
  · rename_i held old here
    rw [show (held, value) = ((held, old).1, value) from rfl, peek_toFront here] at found
    exact inFront l (fun _ found => found) found
  · split at found
    · exact .inr found
    · split at found
      · rw [peek_cons] at found
        exact inFront l.dropLast (fun _ found => peek_of_dropLast found) found
      · rw [peek_cons] at found
        exact inFront l (fun _ found => found) found

theorem Distinct.peek_without (distinct : l.Distinct) (key key' : K) :
    (l.without key).peek key' = if key == key' then none else l.peek key' := by
  cases same : key == key' with
  | true => rw [peek, ← pair?_congr same, distinct.pair?_without, if_pos rfl]; rfl
  | false => rw [peek, pair?_without_of_ne same, if_neg (by simp)]; rfl

end Lru

namespace Shard

variable {K V : Type} [BEq K] [Hashable K]

def Intact (s : Shard K V) : Prop := ∃ l, s.Models l

structure Leaves (s : Shard K V) (kinds : List CacheEvent) (s' : Shard K V) : Prop where
  intact : s'.Intact
  counted : ∀ event, s'.events.count event ≤ s.events.count event + kinds.count event

variable {s s' : Shard K V} {l l' : Lru K V} {kinds : List CacheEvent}

theorem Intact.create (capacity : Nat) : (create capacity : Shard K V).Intact :=
  ⟨[], .create capacity⟩

theorem Reaches.leaves {op : Op K V} (reached : s.Reaches l' (l.events s.capacity op) s')
    (listed : l.events s.capacity op ⊆ kinds) : s.Leaves kinds s' := by
  refine ⟨⟨l', reached.models⟩, ?_⟩
  intro event
  rw [reached.events, CacheEvents.count_tallyAll]
  have once := Lru.count_events_le_one l s.capacity op event
  by_cases happened : event ∈ l.events s.capacity op
  · have := List.count_pos_iff.mpr (listed happened)
    omega
  · rw [List.count_eq_zero_of_not_mem happened]
    omega

theorem Models.distinct (m : s.Models l) : l.Distinct := by
  obtain ⟨nodes, r, rfl⟩ := m
  exact List.pairwise_map.mpr r.distinct

variable [EquivBEq K]

theorem Intact.get (intact : s.Intact) (key : K) :
    Yields (s.events.Full CacheEvent.lookups)
      (fun (value, s') => value = s.peek key ∧ s.Leaves CacheEvent.lookups s' ∧
        ∀ key', s'.peek key' = s.peek key') (s.get key) := by
  obtain ⟨l, m⟩ := intact
  have listed : l.events s.capacity (.get key) ⊆ CacheEvent.lookups := by
    simp only [Lru.events, CacheEvent.lookups]
    split <;> simp
  apply (m.get key).mono (fun full => full.mono listed)
  rintro ⟨value, s'⟩ ⟨same, reached⟩
  refine ⟨by rw [same, Lru.get_fst, m.peek], reached.leaves listed, ?_⟩
  intro key'
  rw [reached.models.peek, Lru.peek_get, m.peek]

variable [LawfulHashable K]

theorem contains_eq_isSome_peek (s : Shard K V) (key : K) :
    s.contains key = (s.peek key).isSome := by
  rw [contains, Std.HashMap.contains_eq_isSome_getElem?, peek, Option.isSome_map]

theorem Intact.insert (intact : s.Intact) (key : K) (value : V) :
    Yields (s.events.Full CacheEvent.arrivals)
      (fun (_, s') => s.Leaves CacheEvent.arrivals s' ∧ ∀ key' value', s'.peek key' = some value' →
        (key == key') = true ∧ value' = value ∨ s.peek key' = some value')
      (s.insert key value) := by
  obtain ⟨l, m⟩ := intact
  have listed : l.events s.capacity (.insert key value) ⊆ CacheEvent.arrivals := by
    simp only [Lru.events, Lru.evictions, CacheEvent.arrivals]
    split_ifs <;> simp
  apply (m.insert key value).mono (fun full => full.mono listed)
  rintro ⟨old, s'⟩ ⟨_, reached⟩
  refine ⟨reached.leaves listed, ?_⟩
  intro key' value' found
  rw [reached.models.peek] at found
  rw [m.peek]
  exact Lru.peek_insert found

theorem Intact.remove (intact : s.Intact) (key : K) :
    Yields (s.events.Full CacheEvent.departures)
      (fun (_, s') => s.Leaves CacheEvent.departures s' ∧
        ∀ key', s'.peek key' = if key == key' then none else s.peek key') (s.remove key) := by
  obtain ⟨l, m⟩ := intact
  have listed : l.events s.capacity (.remove key) ⊆ CacheEvent.departures := by
    simp only [Lru.events, CacheEvent.departures]
    split <;> simp
  apply (m.remove key).mono (fun full => full.mono listed)
  rintro ⟨value, s'⟩ ⟨_, reached⟩
  refine ⟨reached.leaves listed, ?_⟩
  intro key'
  rw [reached.models.peek, m.peek]
  exact m.distinct.peek_without key key'

end Shard

end CacheAside
