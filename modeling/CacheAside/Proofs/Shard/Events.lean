import CacheAside.Proofs.Shard.Serving

namespace CacheAside

namespace Cache

variable {K V : Type}

abbrev Event (K V : Type) := Op K V × Answer V

def Event.touched? : Event K V → Option K
  | (.put key _, _) | (.get key, .value (some _)) => some key
  | _ => none

def Event.put? : Event K V → Option K
  | (.put key _, _) => some key
  | _ => none

def Event.removed? : Event K V → Option K
  | (.remove key, .flag true) => some key
  | _ => none

def touched (events : List (Event K V)) : List K := events.filterMap Event.touched?

def puts (events : List (Event K V)) : List K := events.filterMap Event.put?

variable {events : List (Event K V)} {event : Event K V} {key : K}

theorem puts_subset_touched (events : List (Event K V)) : puts events ⊆ touched events := by
  intro key member
  obtain ⟨⟨op, answer⟩, here, put⟩ := List.mem_filterMap.mp member
  refine List.mem_filterMap.mpr ⟨_, here, ?_⟩
  cases op with
  | put _ _ => exact put
  | _ => cases put

theorem touched_concat_some (touches : event.touched? = some key) :
    touched (events ++ [event]) = touched events ++ [key] := by
  simp [touched, touches]

theorem touched_concat_none (untouched : event.touched? = none) :
    touched (events ++ [event]) = touched events := by
  simp [touched, untouched]

end Cache

namespace Lru

variable {K V : Type} [BEq K] {capacity : Nat} {l l' : Lru K V} {key : K}

inductive Effect (capacity : Nat) (l : Lru K V) (event : Cache.Event K V) : Lru K V → Prop
  | toFront (key : K) (value : V) (touched : event.touched? = some key) :
    Effect capacity l event ((key, value) :: l.without key)
  | evicting (key : K) (value : V) (touched : event.touched? = some key)
    (absent : l.pair? key = none) (full : l.length = capacity) :
    Effect capacity l event ((key, value) :: l.dropLast)
  | removed (key : K) (happened : event = (.remove key, .flag true)) :
    Effect capacity l event (l.without key)
  | cleared (happened : event.1 = .clear) : Effect capacity l event []
  | kept (untouched : event.touched? = none) (unremoved : event.removed? = none) :
    Effect capacity l event l

theorem Effect.touched {event : Cache.Event K V} (effect : Effect capacity l event l')
    (touches : event.touched? = some key) : ∃ value rest, l' = (key, value) :: rest := by
  cases effect with
  | toFront key' value touches' | evicting key' value touches' =>
    obtain rfl : key = key' := Option.some.inj (touches.symm.trans touches')
    exact ⟨value, _, rfl⟩
  | removed key' happened =>
    rw [happened] at touches
    cases touches
  | cleared happened =>
    obtain ⟨op, answer⟩ := event
    cases happened
    cases touches
  | kept untouched =>
    rw [untouched] at touches
    cases touches

theorem without_of_absent (absent : l.pair? key = none) : l.without key = l :=
  List.eraseP_of_forall_not fun e member => by simp [pair?_eq_none.mp absent e member]

variable [LawfulBEq K]

theorem serve_effect (positive : 0 < capacity) (l : Lru K V) (op : Cache.Op K V) :
    Effect capacity l (op, (l.serve capacity op).1) (l.serve capacity op).2 := by
  cases op with
  | put key value =>
    simp only [serve, insert]
    cases found : l.pair? key with
    | some pair =>
      obtain ⟨held, old⟩ := pair
      obtain rfl : held = key := eq_of_beq (pair?_eq_some found).1
      exact .toFront held value rfl
    | none =>
      simp only [Nat.ne_of_gt positive, if_false]
      split
      · exact .evicting key value rfl found ‹_›
      · have front : Effect capacity l (.put key value, .done) ((key, value) :: l.without key) :=
          .toFront key value rfl
        rwa [without_of_absent found] at front
  | get key =>
    simp only [serve, get]
    cases found : l.pair? key with
    | some pair =>
      obtain ⟨held, value⟩ := pair
      obtain rfl : held = key := eq_of_beq (pair?_eq_some found).1
      exact .toFront held value rfl
    | none => exact .kept rfl rfl
  | remove key =>
    simp only [serve, remove, peek]
    cases found : l.pair? key with
    | some pair => exact .removed key rfl
    | none =>
      rw [without_of_absent found]
      exact .kept rfl rfl
  | clear => exact .cleared rfl
  | contains | peek | len | metrics | hitRatio | describe | policy | shardCount | shardCapacities
    | shardIndex => exact .kept rfl rfl

end Lru

theorem Shard.Models.effect {K V : Type} [BEq K] [Hashable K] [LawfulBEq K] {s s' : Shard K V}
    {l : Lru K V} (m : s.Models l) (positive : 0 < s.capacity) {op : Cache.Op K V}
    (entries : op.onEntries = true) {answer : Cache.Answer V}
    (stepped : interface.step s op = .ok (answer, s')) :
    ∃ l', Lru.Effect s.capacity l (op, answer) l' ∧ s.Serves l' s' := by
  obtain ⟨same, served⟩ := (m.serve entries).of_ok stepped
  exact ⟨_, same ▸ Lru.serve_effect positive l op, served⟩

end CacheAside
