import CacheAside.Proofs.Cache.Composition
import CacheAside.Proofs.Metrics.Total
import CacheAside.Proofs.Shard.Inclusion

namespace CacheAside

structure Cache.Answer.ReportedBy {V : Type} (a b : Cache.Answer V) : Prop where
  value : ∀ value, a = .value (some value) → b = .value (some value)
  flag : a = .flag true → b = .flag true

theorem Shard.Answer.ReportedBy.reply {K V : Type} {a b : Shard.Answer K V}
    (reported : a.ReportedBy b) (op : Cache.Op K V) :
    (op.reply a).ReportedBy (op.reply b) := by
  refine ⟨?_, ?_⟩
  · intro value shown
    cases op <;> cases a <;> cases shown <;> rw [reported.value value rfl] <;> rfl
  · intro shown
    unfold Cache.Op.reply at shown
    split at shown
    · cases shown
    · cases shown
    · rename_i key found
      obtain ⟨value, rfl⟩ := Option.isSome_iff_exists.mp (Cache.Answer.flag.inj shown)
      rw [reported.value value rfl]
      rfl
    · rename_i key held
      obtain rfl : held = true := Cache.Answer.flag.inj shown
      rw [reported.flag rfl]
      rfl
    · cases shown

namespace Sharded

theorem share_le_share {c₁ c₂ : Nat} (le : c₁ ≤ c₂) (count index : Nat) :
    share c₁ count index ≤ share c₂ count index := by
  have parts₁ := Nat.div_add_mod c₁ count
  have parts₂ := Nat.div_add_mod c₂ count
  unfold share
  rcases Nat.eq_or_lt_of_le (Nat.div_le_div_right (c := count) le) with same | fewer
  · rw [same] at parts₁ ⊢
    split_ifs <;> omega
  · split_ifs <;> omega

end Sharded

namespace Shard

variable {K V : Type} [BEq K] [Hashable K] [LawfulBEq K] {small large s₁ s₂ : Shard K V}
  {op : Cache.Op K V} {a₁ a₂ : Cache.Answer V}

theorem Covers.serve (covers : small.Covers large) (entries : op.onEntries = true)
    (served₁ : interface.step small op = .ok (a₁, s₁))
    (served₂ : interface.step large op = .ok (a₂, s₂)) : s₁.Covers s₂ ∧ a₁.ReportedBy a₂ := by
  obtain ⟨ask, asked, askEntries⟩ := Cache.Op.asked_of_entries entries
  rw [interface_step asked] at served₁ served₂
  obtain ⟨⟨b₁, _⟩, stepped₁, same₁⟩ := eq_ok_of_bind served₁
  obtain ⟨⟨b₂, _⟩, stepped₂, same₂⟩ := eq_ok_of_bind served₂
  cases same₁
  cases same₂
  obtain ⟨covers', _, _, reported⟩ := covers.step askEntries stepped₁ stepped₂
  exact ⟨covers', reported.reply op⟩

end Shard

namespace Cache

variable {K V : Type} [BEq K] [Hashable K] [ByteStream K]

structure Covers (small large : Cache K V) : Prop where
  index : small.index = large.index
  count : small.shards.length = large.shards.length
  shards : ∀ (i : Nat) (s t : Shard K V), small.shards[i]? = some s → large.shards[i]? = some t →
    s.Covers t

variable {small large c₁ c₂ : Cache K V} {op : Op K V} {ops : List (Op K V)} {a₁ a₂ : Answer V}
  {n : Nat}

theorem Covers.beside (covers : small.Covers large) {i : Nat} {s : Shard K V}
    (here : small.shards[i]? = some s) : ∃ t, large.shards[i]? = some t ∧ s.Covers t := by
  obtain ⟨bound, _⟩ := List.getElem?_eq_some_iff.mp here
  have there := List.getElem?_eq_getElem (covers.count ▸ bound)
  exact ⟨_, there, covers.shards i s _ here there⟩

theorem Serves.beside (served : small.Serves op a₁ c₁) {i : Nat} {s' : Shard K V}
    (here : c₁.shards[i]? = some s') : ∃ s, small.shards[i]? = some s := by
  obtain ⟨bound, _⟩ := List.getElem?_eq_some_iff.mp here
  have count := congrArg List.length served.capacities
  rw [List.length_map, List.length_map] at count
  exact ⟨_, List.getElem?_eq_getElem (count ▸ bound)⟩

variable [LawfulBEq K]

theorem Covers.serve (covers : small.Covers large) (wf : small.WellFormed)
    (entries : op.onEntries = true) (stepped : small.step op = .ok (a₁, c₁))
    (served₁ : small.Serves op a₁ c₁) (served₂ : large.Serves op a₂ c₂) :
    c₁.Covers c₂ ∧ a₁.ReportedBy a₂ := by
  have pair {i : Nat} {s t : Shard K V} (here : small.shards[i]? = some s)
      (there : large.shards[i]? = some t) (concerned : op.concerns small.index i = true) :
      ∃ s' t', c₁.shards[i]? = some s' ∧ c₂.shards[i]? = some t' ∧ s'.Covers t' ∧
        a₁.ReportedBy a₂ := by
    obtain ⟨s', here', serve₁⟩ := served₁.concerned i s here concerned
    obtain ⟨t', there', serve₂⟩ := served₂.concerned i t there (covers.index ▸ concerned)
    exact ⟨s', t', here', there', (covers.shards i s t here there).serve entries serve₁ serve₂⟩
  refine ⟨⟨?_, ?_, ?_⟩, ?_⟩
  · rw [index_eq_of_frame served₁.frame, index_eq_of_frame served₂.frame, covers.index]
  · have count₁ := congrArg List.length served₁.capacities
    have count₂ := congrArg List.length served₂.capacities
    rw [List.length_map, List.length_map] at count₁ count₂
    rw [count₁, count₂, covers.count]
  · intro i s' t' here' there'
    obtain ⟨s, here⟩ := served₁.beside here'
    obtain ⟨t, there⟩ := served₂.beside there'
    cases concerned : op.concerns small.index i with
    | true =>
      obtain ⟨s'', t'', same₁, same₂, covers', _⟩ := pair here there concerned
      obtain rfl : s' = s'' := Option.some.inj (here'.symm.trans same₁)
      obtain rfl : t' = t'' := Option.some.inj (there'.symm.trans same₂)
      exact covers'
    | false =>
      rw [served₁.untouched i concerned] at here'
      rw [served₂.untouched i (covers.index ▸ concerned)] at there'
      exact covers.shards i s' t' here' there'
  · cases keyed : op.key? with
    | some key =>
      obtain ⟨s, _, here⟩ := wf.home key
      obtain ⟨t, there, _⟩ := covers.beside here
      have concerned : op.concerns small.index (small.index key) = true := by
        rw [Op.concerns_of_key keyed, beq_self_eq_true]
      obtain ⟨_, _, _, _, _, reported⟩ := pair here there concerned
      exact reported
    | none =>
      obtain rfl := op.eq_clear entries keyed
      obtain ⟨_, _, same⟩ := eq_ok_of_bind stepped
      cases same
      exact ⟨nofun, nofun⟩

theorem Covers.replay (covers : small.Covers large) (wf₁ : small.WellFormed)
    (wf₂ : large.WellFormed) (entries : ∀ op ∈ ops, op.onEntries = true)
    (within₁ : small.Within fun _ => n) (within₂ : large.Within fun _ => n)
    (short : n + ops.length < Word.bound) :
    ∃ answers₁ c₁ answers₂ c₂, replay Cache.step small ops = .ok (answers₁, c₁) ∧
      replay Cache.step large ops = .ok (answers₂, c₂) ∧
      List.Forall₂ Answer.ReportedBy answers₁ answers₂ ∧ c₁.Covers c₂ ∧ c₁.WellFormed ∧
      c₂.WellFormed := by
  induction ops generalizing small large n with
  | nil => exact ⟨[], small, [], large, rfl, rfl, .nil, covers, wf₁, wf₂⟩
  | cons op ops ih =>
    rw [List.length_cons] at short
    have onEntries := entries op List.mem_cons_self
    obtain ⟨a₁, d₁, stepped₁, served₁, counted₁⟩ := wf₁.serve onEntries within₁ (by omega)
    obtain ⟨a₂, d₂, stepped₂, served₂, counted₂⟩ := wf₂.serve onEntries within₂ (by omega)
    obtain ⟨covers', reported⟩ := covers.serve wf₁ onEntries stepped₁ served₁ served₂
    obtain ⟨answers₁, c₁, answers₂, c₂, ran₁, ran₂, rest, final⟩ :=
      ih covers' served₁.wellFormed served₂.wellFormed
        (fun op member => entries op (List.mem_cons_of_mem _ member)) counted₁ counted₂ (by omega)
    exact ⟨a₁ :: answers₁, c₁, a₂ :: answers₂, c₂, replay_cons stepped₁ ran₁,
      replay_cons stepped₂ ran₂, .cons reported rest, final⟩

theorem Covers.view (covers : small.Covers large) (wf : small.WellFormed) {key : K} {value : V}
    (found : small.view key = some value) : large.view key = some value := by
  obtain ⟨s, _, here⟩ := wf.home key
  obtain ⟨t, there, shards⟩ := covers.beside here
  rw [view_of_home here] at found
  rw [view_of_home (covers.index ▸ there)]
  exact shards.includes.peek key value found

end Cache

namespace Sharded

variable {K V : Type} [BEq K] [Hashable K] [ByteStream K]

/-- Each shard of the larger cache includes its counterpart, so the larger cache finds what the
    smaller one finds, and its counters tell of as many hits. -/
structure Includes (large small : Sharded K V) : Prop where
  shards : List.Forall₂ (fun s t => t.Includes (t.capacity - s.capacity) s)
    small.shards.toList large.shards.toList
  peek : ∀ key value, small.peek key = .ok (some value) → large.peek key = .ok (some value)
  getHits : ∀ m₁ m₂, small.metrics = .ok m₁ → large.metrics = .ok m₂ → m₁.getHits ≤ m₂.getHits

variable {c₁ c₂ shards n : Nat} {small large : Sharded K V}

omit [ByteStream K] in
theorem getHits_of_metrics {c : Sharded K V} {m : CacheMetrics} (shown : c.metrics = .ok m) :
    m.getHits = (c.shards.toList.map (·.events.getHits)).sum := by
  have total := (CacheMetrics.total_yields _).of_ok shown
  have counted := CacheMetrics.count_sum (c.shards.toList.map Shard.metrics) .getHit
  rw [← total, List.map_map] at counted
  exact counted

omit [ByteStream K] in
theorem router_of_create {capacity : Nat} {c : Sharded K V}
    (created : create capacity shards = .ok c) : c.router = .make (min shards capacity) 0 := by
  simp only [create] at created
  split_ifs at created
  cases created
  rfl

/-- No more shards than the smaller cache has room for, so both caches have as many. -/
theorem covers_of_create (le : c₁ ≤ c₂) (fewer : shards ≤ c₁)
    (created₁ : create c₁ shards = .ok small) (created₂ : create c₂ shards = .ok large) :
    (Cache.sharded small).Covers (.sharded large) := by
  have router₁ := router_of_create created₁
  have router₂ := router_of_create created₂
  obtain ⟨_, _, fresh₁⟩ := create_shards created₁
  obtain ⟨_, _, fresh₂⟩ := create_shards created₂
  have shards₁ : (Cache.sharded small).shards = small.shards.toList := rfl
  have shards₂ : (Cache.sharded large).shards = large.shards.toList := rfl
  rw [Nat.min_eq_left fewer] at router₁
  rw [shares, Nat.min_eq_left fewer, List.map_map] at fresh₁
  rw [Nat.min_eq_left (Nat.le_trans fewer le)] at router₂
  rw [shares, Nat.min_eq_left (Nat.le_trans fewer le), List.map_map] at fresh₂
  refine ⟨?_, ?_, ?_⟩
  · funext key
    change small.router.route key = large.router.route key
    rw [router₁, router₂]
  · rw [shards₁, shards₂, fresh₁, fresh₂, List.length_map, List.length_map]
  · intro i s t here there
    rw [shards₁, fresh₁, List.getElem?_map] at here
    rw [shards₂, fresh₂, List.getElem?_map] at there
    obtain ⟨_, listed, rfl⟩ := Option.map_eq_some_iff.mp here
    rw [listed] at there
    cases there
    exact .create (share_le_share le shards _)

variable [LawfulBEq K]

theorem includes_of_covers (covers : (Cache.sharded small).Covers (.sharded large))
    (wf₁ : (Cache.sharded small).WellFormed) (wf₂ : (Cache.sharded large).WellFormed) :
    large.Includes small := by
  have shards : List.Forall₂ (fun s t => t.Includes (t.capacity - s.capacity) s)
      small.shards.toList large.shards.toList := by
    refine List.forall₂_iff_get.mpr ⟨covers.count, ?_⟩
    intro i bound₁ bound₂
    exact (covers.shards i _ _ (List.getElem?_eq_getElem bound₁)
      (List.getElem?_eq_getElem bound₂)).includes
  refine ⟨shards, ?_, ?_⟩
  · intro key value found
    have found : (Cache.sharded small).peek key = .ok (some value) := found
    change (Cache.sharded large).peek key = .ok (some value)
    rw [wf₁.peek] at found
    rw [wf₂.peek, covers.view wf₁ (Except.ok.inj found)]
  · intro m₁ m₂ shown₁ shown₂
    rw [getHits_of_metrics shown₁, getHits_of_metrics shown₂]
    refine List.Forall₂.sum_le_sum ?_
    rw [List.forall₂_map_left_iff, List.forall₂_map_right_iff]
    exact shards.imp fun _ _ includes => includes.getHits

theorem replay_includes (le : c₁ ≤ c₂) (fewer : shards ≤ c₁)
    {ops : List (Cache.Op K V)} (entries : ∀ op ∈ ops, op.onEntries = true)
    (short : ops.length < Word.bound)
    (created₁ : create c₁ shards = .ok small) (created₂ : create c₂ shards = .ok large) :
    ∃ answers₁ small' answers₂ large', replay interface.step small ops = .ok (answers₁, small') ∧
      replay interface.step large ops = .ok (answers₂, large') ∧
      List.Forall₂ Cache.Answer.ReportedBy answers₁ answers₂ ∧ large'.Includes small' := by
  obtain ⟨wf₁, _, within₁⟩ := Cache.build_wellFormed (build_of_create created₁)
  obtain ⟨wf₂, _, within₂⟩ := Cache.build_wellFormed (build_of_create created₂)
  obtain ⟨answers₁, d₁, answers₂, d₂, ran₁, ran₂, reported, covers, wf₁', wf₂'⟩ :=
    (covers_of_create le fewer created₁ created₂).replay wf₁ wf₂ entries within₁ within₂ (by omega)
  have shared (c : Sharded K V) :
      replay Cache.step (.sharded c) ops = onState .sharded (replay interface.step c ops) :=
    Cache.replay_sharded c fun op member => op.shared_of_entries (entries op member)
  rw [shared] at ran₁ ran₂
  obtain ⟨small', returned₁, rfl⟩ := onState_eq_ok ran₁
  obtain ⟨large', returned₂, rfl⟩ := onState_eq_ok ran₂
  exact ⟨answers₁, small', answers₂, large', returned₁, returned₂, reported,
    includes_of_covers covers wf₁' wf₂'⟩

/-- A larger cache never does worse. Through any run the larger of two shards has all that the
    smaller one has and finds all that it finds, and so do caches of as many shards each. -/
theorem larger_includes_smaller (le : c₁ ≤ c₂) :
    (∀ ops : List (Shard.Op K V), (∀ op ∈ ops, op.onEntries = true) → ops.length < Word.bound →
      ∃ steps₁ steps₂, (Shard.create c₁ : Shard K V).run ops = .ok steps₁ ∧
        (Shard.create c₂ : Shard K V).run ops = .ok steps₂ ∧
        List.Forall₂ (fun x y => x.1.ReportedBy y.1 ∧ y.2.Includes (c₂ - c₁) x.2) steps₁ steps₂) ∧
    ∀ shards, 0 < shards → shards ≤ c₁ → ∃ small large : Sharded K V,
      create c₁ shards = .ok small ∧ create c₂ shards = .ok large ∧
      ∀ ops : List (Cache.Op K V), (∀ op ∈ ops, op.onEntries = true) → ops.length < Word.bound →
        ∃ answers₁ small' answers₂ large',
          replay interface.step small ops = .ok (answers₁, small') ∧
          replay interface.step large ops = .ok (answers₂, large') ∧
          List.Forall₂ Cache.Answer.ReportedBy answers₁ answers₂ ∧ large'.Includes small' := by
  refine ⟨?_, ?_⟩
  · intro ops entries short
    obtain ⟨steps₁, ran₁⟩ := Shard.create_runs (V := V) c₁ entries short
    obtain ⟨steps₂, ran₂⟩ := Shard.create_runs (V := V) c₂ entries short
    exact ⟨steps₁, steps₂, ran₁, ran₂, (Shard.Covers.create le).run entries ran₁ ran₂⟩
  · intro shards positive fewer
    have created (capacity : Nat) (room : shards ≤ capacity) :
        ∃ c : Sharded K V, create capacity shards = .ok c := by
      rw [create, if_neg (by omega), if_neg (by omega)]
      exact ⟨_, rfl⟩
    obtain ⟨small, created₁⟩ := created c₁ fewer
    obtain ⟨large, created₂⟩ := created c₂ (Nat.le_trans fewer le)
    exact ⟨small, large, created₁, created₂, fun ops entries short =>
      replay_includes le fewer entries short created₁ created₂⟩

def gappedRun : List (Shard.Op Int64 String) :=
  [.insert 1 "a", .insert 2 "b", .insert 3 "c", .get 1, .remove 3, .popOldest, .insert 4 "d",
    .get 1]

theorem gappedRun_included : 2 ≤ 4 ∧ (∀ op ∈ gappedRun, op.onEntries = true) ∧
    gappedRun.length < Word.bound ∧ 0 < 2 ∧ 2 ≤ 2 ∧ (∀ op ∈ spreadRun, op.onEntries = true) ∧
    spreadRun.length < Word.bound ∧
    (∃ steps₁ steps₂, (Shard.create 2 : Shard Int64 String).run gappedRun = .ok steps₁ ∧
      (Shard.create 4 : Shard Int64 String).run gappedRun = .ok steps₂ ∧
      List.Forall₂ (fun x y => x.1.ReportedBy y.1 ∧ y.2.Includes 2 x.2) steps₁ steps₂) ∧
    ∃ small large : Sharded Int64 String, create 2 2 = .ok small ∧ create 4 2 = .ok large ∧
      ∃ answers₁ small' answers₂ large', replay interface.step small spreadRun =
          .ok (answers₁, small') ∧
        replay interface.step large spreadRun = .ok (answers₂, large') ∧
        List.Forall₂ Cache.Answer.ReportedBy answers₁ answers₂ ∧ large'.Includes small' := by
  have entries : ∀ op ∈ gappedRun, op.onEntries = true := by decide
  have entries' : ∀ op ∈ spreadRun, op.onEntries = true := by decide
  obtain ⟨shards, caches⟩ := larger_includes_smaller (K := Int64) (V := String)
    (show 2 ≤ 4 by decide)
  obtain ⟨small, large, created₁, created₂, runs⟩ := caches 2 (by decide) (by decide)
  exact ⟨by decide, entries, by decide, by decide, by decide, entries', by decide,
    shards gappedRun entries (by decide), small, large, created₁, created₂,
    runs spreadRun entries' (by decide)⟩

example : (Lru.run 2 [] gappedRun).map (·.2.map Prod.fst) =
      [[1], [2, 1], [3, 2], [3, 2], [2], [], [4], [4]] ∧
    (Lru.run 4 [] gappedRun).map (·.2.map Prod.fst) =
      [[1], [2, 1], [3, 2, 1], [1, 3, 2], [1, 2], [1], [4, 1], [1, 4]] := by decide

end Sharded

end CacheAside
