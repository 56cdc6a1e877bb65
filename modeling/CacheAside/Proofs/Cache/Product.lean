import CacheAside.Proofs.Cache.Reachable
import CacheAside.Proofs.Shard.Serving

namespace CacheAside

namespace Cache

variable {K V : Type}

def Op.key? : Op K V → Option K
  | .put key _ | .get key | .remove key | .contains key | .peek key => some key
  | _ => none

/-- Whether an operation reaches a shard: one on an entry reaches the shard its key is routed to,
    any other one all of them. -/
def Op.concerns (op : Op K V) (route : K → Nat) (shard : Nat) : Bool :=
  op.key?.all (route · == shard)

theorem Op.concerns_of_key {op : Op K V} {key : K} (keyed : op.key? = some key) (route : K → Nat)
    (shard : Nat) : op.concerns route shard = (route key == shard) := by
  rw [concerns, keyed]
  rfl

theorem Op.entries_of_key {op : Op K V} {key : K} (keyed : op.key? = some key) :
    op.onEntries = true := by
  cases op with
  | put | get | remove | contains | peek => rfl
  | clear | len | metrics | hitRatio | describe | policy | shardCount | shardCapacities
    | shardIndex => cases keyed

theorem Op.eq_clear {op : Op K V} (entries : op.onEntries = true) (keyless : op.key? = none) :
    op = .clear := by
  cases op with
  | clear => rfl
  | put | get | remove | contains | peek => cases keyless
  | len | metrics | hitRatio | describe | policy | shardCount | shardCapacities | shardIndex =>
    cases entries

variable [BEq K] [Hashable K]

def frame : Cache K V → Option (Router × Nat)
  | coarse _ => none
  | sharded c => some (c.router, c.capacity)

variable {c c' : Cache K V}

theorem eq_of_frame (frame : c.frame = c'.frame) (shards : c.shards = c'.shards) : c = c' := by
  cases c with
  | coarse c =>
    cases c' with
    | coarse c' =>
      obtain ⟨s⟩ := c
      obtain ⟨s'⟩ := c'
      obtain rfl : s = s' := (List.cons.inj shards).1
      rfl
    | sharded c' => cases frame
  | sharded c =>
    cases c' with
    | coarse c' => cases frame
    | sharded c' =>
      obtain ⟨parts, router, capacity⟩ := c
      obtain ⟨parts', router', capacity'⟩ := c'
      obtain rfl : parts = parts' := Array.toList_inj.mp shards
      cases frame
      rfl

theorem within_of_room (room : ¬ c.Full CacheEvent.all) : c.Within fun _ => Word.bound - 2 := by
  intro s member event
  have listed : event ∈ CacheEvent.all := CacheEvent.subset_all [event] List.mem_cons_self
  have below : s.events.count event + 1 < Word.bound :=
    Nat.not_le.mp fun beyond => room ⟨s, member, event, listed, beyond⟩
  exact Nat.le_sub_of_add_le below

variable [ByteStream K] {op : Op K V} {key : K} {answer : Answer V}

theorem index_eq_of_frame (frame : c.frame = c'.frame) : c.index = c'.index := by
  cases c with
  | coarse c =>
    cases c' with
    | coarse c' => rfl
    | sharded c' => cases frame
  | sharded c =>
    cases c' with
    | coarse c' => cases frame
    | sharded c' =>
      have router : c.router = c'.router := congrArg Prod.fst (Option.some.inj frame)
      funext key
      rw [index, index, Sharded.shardIndex, Sharded.shardIndex, router]

theorem withShard_self {c : Sharded K V} {s : Shard K V} (found : c.shardOf key = .ok s) :
    c.withShard key s = c := by
  unfold Sharded.shardOf at found
  split at found
  · rename_i here
    cases found
    obtain ⟨bound, same⟩ := Array.getElem?_eq_some_iff.mp here
    rw [Sharded.withShard, Array.setIfInBounds_def, dif_pos bound, ← same, Array.set_getElem_self]
  · cases found

theorem step_eq_onShard (c : Cache K V) (keyed : op.key? = some key) :
    c.step op = c.onShard key (Shard.interface.step · op) := by
  cases op with
  | put | get | remove =>
    cases keyed
    cases c <;>
      simp [step, put, get, remove, Coarse.put, Coarse.get, Coarse.remove, Sharded.put, Sharded.get,
        Sharded.remove, onShard, Interface.step, Shard.interface]
  | contains | peek =>
    cases keyed
    cases c with
    | coarse c => rfl
    | sharded c =>
      cases found : c.shardOf key with
      | error fault =>
        simp only [step, contains, peek, Sharded.contains, Sharded.peek, onShard, found]
        rfl
      | ok s =>
        simp [step, contains, peek, Sharded.contains, Sharded.peek, onShard, Interface.step,
          Shard.interface, found, withShard_self found]
  | clear | len | metrics | hitRatio | describe | policy | shardCount | shardCapacities
    | shardIndex => cases keyed

theorem onShard_frame {α : Type} {operation : Shard K V → Except Fault (α × Shard K V)}
    {result : α} (done : c.onShard key operation = .ok (result, c')) : c'.frame = c.frame := by
  cases c with
  | coarse c =>
    obtain ⟨_, _, same⟩ := eq_ok_of_bind done
    cases same
    rfl
  | sharded c =>
    obtain ⟨_, _, served⟩ := eq_ok_of_bind done
    obtain ⟨_, _, same⟩ := eq_ok_of_bind served
    cases same
    rfl

omit [ByteStream K] in
theorem clear_frame (cleared : c.clear = .ok c') : c'.frame = c.frame := by
  cases c with
  | coarse c | sharded c =>
    obtain ⟨c', clear, same⟩ := eq_ok_of_bind cleared
    obtain ⟨_, _, shards⟩ := eq_ok_of_bind clear
    cases shards
    cases same
    rfl

/-- What one operation on the entries does: each shard that it concerns serves it, with the answer
    that the cache gives, and the others stay as they are. -/
structure Serves (c : Cache K V) (op : Op K V) (answer : Answer V) (c' : Cache K V) : Prop where
  wellFormed : c'.WellFormed
  frame : c'.frame = c.frame
  capacities : c'.shards.map Shard.capacity = c.shards.map Shard.capacity
  concerned : ∀ i s, c.shards[i]? = some s → op.concerns c.index i = true →
    ∃ s', c'.shards[i]? = some s' ∧ Shard.interface.step s op = .ok (answer, s')
  untouched : ∀ i, op.concerns c.index i = false → c'.shards[i]? = c.shards[i]?

theorem Became.serves {s s' : Shard K V} (became : c.Became key s' c')
    (home : c.shards[c.index key]? = some s) (keyed : op.key? = some key)
    (served : Shard.interface.step s op = .ok (answer, s')) (capacity : s'.capacity = s.capacity)
    (wf : c'.WellFormed) (frame : c'.frame = c.frame) : c.Serves op answer c' := by
  obtain ⟨bound, _⟩ := List.getElem?_eq_some_iff.mp home
  have capacities := became.map_shards (f := Shard.capacity) home capacity
  refine ⟨wf, frame, capacities, ?_, ?_⟩
  · intro i t found concerned
    rw [Op.concerns_of_key keyed, beq_iff_eq] at concerned
    subst concerned
    obtain rfl : s = t := Option.some.inj (home.symm.trans found)
    exact ⟨s', by rw [became.shards, List.getElem?_set_self bound], served⟩
  · intro i elsewhere
    rw [Op.concerns_of_key keyed, beq_eq_false_iff_ne] at elsewhere
    rw [became.shards, List.getElem?_set_ne elsewhere]

variable {a b : Op K V} {ka kb : K} {x y x' y' : Answer V} {c₁ d₁ d₂ : Cache K V}

/-- What an operation finds in its shard does not depend on one that another shard served before. -/
theorem Serves.beyond (first : c.Serves a x c₁) (second : c₁.Serves b y c')
    (alone : c.Serves b y' d₁) (wf : c.WellFormed) (keyed : b.key? = some kb)
    (apart : a.concerns c.index (c.index kb) = false) :
    y = y' ∧ c'.shards[c.index kb]? = d₁.shards[c.index kb]? := by
  have concerned : b.concerns c.index (c.index kb) = true := by
    rw [Op.concerns_of_key keyed, beq_self_eq_true]
  obtain ⟨s, _, home⟩ := wf.home kb
  obtain ⟨t, there, served⟩ := second.concerned _ s
    (by rw [first.untouched _ apart, home]) (by rw [index_eq_of_frame first.frame]; exact concerned)
  obtain ⟨t', there', served'⟩ := alone.concerned _ s home concerned
  rw [served] at served'
  cases served'
  exact ⟨rfl, there.trans there'.symm⟩

/-- Two operations on keys of different shards give the same answers, and leave the same cache, in
    either order. -/
theorem Serves.exchange (first : c.Serves a x c₁) (second : c₁.Serves b y c')
    (first' : c.Serves b y' d₁) (second' : d₁.Serves a x' d₂) (wf : c.WellFormed)
    (keyedA : a.key? = some ka) (keyedB : b.key? = some kb) (apart : c.index ka ≠ c.index kb) :
    x' = x ∧ y' = y ∧ d₂ = c' := by
  have elsewhereA (i : Nat) (other : c.index ka ≠ i) : a.concerns c.index i = false := by
    rw [Op.concerns_of_key keyedA]
    exact beq_false_of_ne other
  have elsewhereB (i : Nat) (other : c.index kb ≠ i) : b.concerns c.index i = false := by
    rw [Op.concerns_of_key keyedB]
    exact beq_false_of_ne other
  have routeA : c₁.index = c.index := index_eq_of_frame first.frame
  have routeB : d₁.index = c.index := index_eq_of_frame first'.frame
  obtain ⟨sameY, atB⟩ := first.beyond second first' wf keyedB (elsewhereA _ apart)
  obtain ⟨sameX, atA⟩ := first'.beyond second' first wf keyedA (elsewhereB _ apart.symm)
  refine ⟨sameX, sameY.symm, eq_of_frame ?_ (List.ext_getElem? fun i => ?_)⟩
  · rw [second'.frame, first'.frame, second.frame, first.frame]
  · by_cases isA : c.index ka = i
    · subst isA
      rw [atA, second.untouched _ (by rw [routeA]; exact elsewhereB _ apart.symm)]
    · by_cases isB : c.index kb = i
      · subst isB
        rw [atB, second'.untouched _ (by rw [routeB]; exact elsewhereA _ apart)]
      · rw [second'.untouched _ (by rw [routeB]; exact elsewhereA _ isA),
          first'.untouched _ (elsewhereB _ isB),
          second.untouched _ (by rw [routeA]; exact elsewhereB _ isB),
          first.untouched _ (elsewhereA _ isA)]

def answersOn (route : K → Nat) (shard : Nat) (ops : List (Op K V)) (answers : List (Answer V)) :
    List (Answer V) :=
  ((ops.zip answers).filter fun event => event.1.concerns route shard).map Prod.snd

/-- What a run of operations on the entries does: each shard serves those that concern it, one after
    the other, with the answers that the cache gives. -/
structure ServesAll (c : Cache K V) (ops : List (Op K V)) (answers : List (Answer V))
    (c' : Cache K V) : Prop where
  wellFormed : c'.WellFormed
  frame : c'.frame = c.frame
  capacities : c'.shards.map Shard.capacity = c.shards.map Shard.capacity
  parts : ∀ i s, c.shards[i]? = some s → ∃ s', c'.shards[i]? = some s' ∧
    replay Shard.interface.step s (ops.filter (·.concerns c.index i)) =
      .ok (answersOn c.index i ops answers, s')

variable {ops : List (Op K V)} {answers : List (Answer V)}

/-- In a run on new shards each shard ends as one of its capacity does on its own. -/
theorem ServesAll.part {c : Cache K V} {ops : List (Op K V)} {answers : List (Answer V)}
    {capacities : List Nat} (served : c.ServesAll ops answers c')
    (fresh : c.shards = capacities.map .create) {i : Nat} {s : Shard K V}
    (here : c'.shards[i]? = some s) :
    capacities[i]? = some s.capacity ∧
      replay Shard.interface.step (.create s.capacity) (ops.filter (·.concerns c.index i)) =
        .ok (answersOn c.index i ops answers, s) := by
  have same : c'.shards.map Shard.capacity = capacities := by
    rw [served.capacities, fresh, List.map_map]
    exact List.map_id _
  have capacity : capacities[i]? = some s.capacity := by
    rw [← same, List.getElem?_map, here]
    rfl
  have start : c.shards[i]? = some (.create s.capacity) := by
    rw [fresh, List.getElem?_map, capacity]
    rfl
  obtain ⟨s', here', ran⟩ := served.parts i _ start
  obtain rfl : s = s' := Option.some.inj (here.symm.trans here')
  exact ⟨capacity, ran⟩

theorem Serves.cons (serves : c.Serves op answer c₁) (rest : c₁.ServesAll ops answers c') :
    c.ServesAll (op :: ops) (answer :: answers) c' := by
  have route : c₁.index = c.index := index_eq_of_frame serves.frame
  refine ⟨rest.wellFormed, rest.frame.trans serves.frame,
    rest.capacities.trans serves.capacities, ?_⟩
  intro i s found
  rw [answersOn, List.zip_cons_cons]
  cases concerned : op.concerns c.index i with
  | true =>
    obtain ⟨s₁, found₁, served⟩ := serves.concerned i s found concerned
    obtain ⟨s', found', ran⟩ := rest.parts i s₁ found₁
    rw [route] at ran
    simp only [List.filter_cons, concerned, if_true]
    exact ⟨s', found', replay_cons served ran⟩
  | false =>
    obtain ⟨s', found', ran⟩ := rest.parts i s (by rw [serves.untouched i concerned, found])
    rw [route] at ran
    simp only [List.filter_cons, concerned]
    exact ⟨s', found', ran⟩

variable {n : Nat}

theorem WellFormed.serve_clear (wf : c.WellFormed) (within : c.Within fun _ => n)
    (room : n + 1 < Word.bound) :
    ∃ c', c.step .clear = .ok (.done, c') ∧ c.Serves .clear .done c' ∧
      c'.Within fun _ => n + 1 := by
  have notFull : ¬ c.Full [.clearing] := within.not_full fun _ _ => room
  obtain ⟨c', cleared, parts, _⟩ := (clear_yields c).returns notFull
  have stepped : c.step .clear = .ok (.done, c') := by simp [Cache.step, cleared]
  have capacities := capacities_of_cleared parts
  refine ⟨c', stepped, ⟨wf.clear.of_ok cleared, clear_frame cleared, capacities, ?_, ?_⟩, ?_⟩
  · intro i s found _
    obtain ⟨bound, rfl⟩ := List.getElem?_eq_some_iff.mp found
    have bound' : i < c'.shards.length := parts.length_eq ▸ bound
    have here := (parts.get bound bound').1
    refine ⟨_, List.getElem?_eq_getElem bound', ?_⟩
    simp only [List.get_eq_getElem] at here
    simp [Interface.step, Shard.interface, here]
  · intro i untouched
    cases untouched
  · intro s' member event
    obtain ⟨i, bound', rfl⟩ := List.mem_iff_getElem.mp member
    have bound : i < c.shards.length := parts.length_eq ▸ bound'
    have reached := (parts.get bound bound').2
    have before : c.shards[i].events.count event ≤ n := within _ (List.getElem_mem bound) event
    have once : [CacheEvent.clearing].count event ≤ 1 := by cases event <;> decide
    have counted : c'.shards[i].events = c.shards[i].events.tallyAll [.clearing] := reached.events
    rw [counted, CacheEvents.count_tallyAll]
    exact Nat.add_le_add before once

variable [LawfulBEq K]

/-- An operation on the entries returns where counters have room, and the shards serve it. -/
theorem WellFormed.serve (wf : c.WellFormed) (entries : op.onEntries = true)
    (within : c.Within fun _ => n) (room : n + 1 < Word.bound) :
    ∃ answer c', c.step op = .ok (answer, c') ∧ c.Serves op answer c' ∧
      c'.Within fun _ => n + 1 := by
  cases keyed : op.key? with
  | some key =>
    have notFull : ¬ c.Full CacheEvent.all := within.not_full fun _ _ => room
    obtain ⟨⟨answer, c'⟩, stepped, s, member, home, s', ⟨served, capacity, left⟩, became⟩ :=
      (wf.onShard key fun s intact => intact.serve entries).returns notFull
    have leaves := became.leaves wf member left
    have frame := onShard_frame stepped
    rw [← step_eq_onShard c keyed] at stepped
    have serves := became.serves home keyed served capacity leaves.wellFormed frame
    refine ⟨answer, c', stepped, serves, ?_⟩
    exact (leaves.counted _ within).mono fun event => Nat.le_of_eq (by rw [CacheEvent.count_all])
  | none =>
    obtain rfl := op.eq_clear entries keyed
    obtain ⟨c', stepped, serves, counted⟩ := wf.serve_clear within room
    exact ⟨.done, c', stepped, serves, counted⟩

/-- A run on the entries that is short enough for the counters returns, and the shards share its
    work. -/
theorem WellFormed.serveAll (wf : c.WellFormed) (entries : ∀ op ∈ ops, op.onEntries = true)
    (within : c.Within fun _ => n) (short : n + ops.length < Word.bound) :
    ∃ answers c', replay Cache.step c ops = .ok (answers, c') ∧ c.ServesAll ops answers c' ∧
      c'.Within fun _ => n + ops.length := by
  -- Carried along are well-formedness and the bound on the counters, which each step raises by one.
  induction ops generalizing c n with
  | nil => exact ⟨[], c, rfl, ⟨wf, rfl, rfl, fun i s found => ⟨s, found, rfl⟩⟩, within⟩
  | cons op ops ih =>
    rw [List.length_cons] at short ⊢
    obtain ⟨answer, c₁, stepped, serves, within₁⟩ :=
      wf.serve (entries op List.mem_cons_self) within (by omega)
    obtain ⟨answers, c', ran, rest, within'⟩ := ih serves.wellFormed
      (fun op member => entries op (List.mem_cons_of_mem _ member)) within₁ (by omega)
    exact ⟨answer :: answers, c', replay_cons stepped ran, serves.cons rest,
      within'.mono fun _ => by omega⟩

/-- Two neighbours in a run that go to different shards can change places. -/
theorem WellFormed.exchange {before after : List (Op K V)} (wf : c.WellFormed)
    (entries : ∀ op ∈ before ++ a :: b :: after, op.onEntries = true)
    (within : c.Within fun _ => n) (short : n + (before ++ a :: b :: after).length < Word.bound)
    (keyedA : a.key? = some ka) (keyedB : b.key? = some kb) (apart : c.index ka ≠ c.index kb) :
    ∃ first x y last c', first.length = before.length ∧
      replay Cache.step c (before ++ a :: b :: after) = .ok (first ++ x :: y :: last, c') ∧
      replay Cache.step c (before ++ b :: a :: after) = .ok (first ++ y :: x :: last, c') := by
  have entriesA := entries a (by simp)
  have entriesB := entries b (by simp)
  rw [List.length_append, List.length_cons, List.length_cons] at short
  obtain ⟨first, c₀, ran, served, within₀⟩ := wf.serveAll
    (fun op member => entries op (List.mem_append_left _ member)) within (by omega)
  have wf₀ := served.wellFormed
  have apart₀ : c₀.index ka ≠ c₀.index kb := by rwa [index_eq_of_frame served.frame]
  obtain ⟨x, c₁, stepA, serveA, within₁⟩ := wf₀.serve entriesA within₀ (by omega)
  obtain ⟨y, c₂, stepB, serveB, within₂⟩ := serveA.wellFormed.serve entriesB within₁ (by omega)
  obtain ⟨y', d₁, stepB', serveB', within₁'⟩ := wf₀.serve entriesB within₀ (by omega)
  obtain ⟨x', d₂, stepA', serveA', _⟩ := serveB'.wellFormed.serve entriesA within₁' (by omega)
  obtain ⟨rfl, rfl, rfl⟩ := serveA.exchange serveB serveB' serveA' wf₀ keyedA keyedB apart₀
  have entriesAfter : ∀ op ∈ after, op.onEntries = true :=
    fun op member => entries op (by simp [member])
  obtain ⟨last, c', rest, _, _⟩ :=
    serveB.wellFormed.serveAll entriesAfter within₂ (by omega)
  exact ⟨first, x', y', last, c', length_of_replay ran,
    replay_append ran (replay_cons stepA (replay_cons stepB rest)),
    replay_append ran (replay_cons stepB' (replay_cons stepA' rest))⟩

end Cache

end CacheAside
