import CacheAside.Proofs.Cache.Turns

namespace CacheAside

theorem mapM_eq_ok {α β : Type} {f : α → Except Fault β} {before : List α} {after : List β}
    (each : List.Forall₂ (fun a b => f a = .ok b) before after) : before.mapM f = .ok after := by
  induction each with
  | nil => rfl
  | cons here _ ih =>
    rw [List.mapM_cons, here, ih]
    rfl

theorem Shard.onward_trans {K V : Type} [BEq K] [Hashable K] {first mid last : List (Shard K V)}
    (before : List.Forall₂ Shard.Onward first mid) (after : List.Forall₂ Shard.Onward mid last) :
    List.Forall₂ Shard.Onward first last := by
  induction before generalizing last with
  | nil =>
    cases after
    exact .nil
  | cons here _ ih =>
    cases after with
    | cons here' rest => exact .cons (here.trans here') (ih rest)

namespace Sharded

variable {K V : Type} [BEq K] [Hashable K] {α β : Type}

/-- A way to go through the shards one after another, each under its own lock: what is done to a
    shard, with what was gathered from those before it. -/
structure Scan (K V α : Type) [BEq K] [Hashable K] where
  start : α
  visit : α → Shard K V → Except Fault (α × Shard K V)

namespace Scan

def adding (start : α) (part : Shard K V → β) (add : α → β → Except Fault α) : Scan K V α :=
  ⟨start, fun gathered s => do return (← add gathered (part s), s)⟩

def len : Scan K V Nat := adding 0 Shard.len Word.add

def metrics : Scan K V CacheMetrics := adding {} Shard.metrics CacheMetrics.add

def clear : Scan K V Unit := ⟨(), fun _ s => do return ((), ← s.clear)⟩

end Scan

structure Progress (K V α : Type) [BEq K] [Hashable K] where
  cache : Sharded K V
  visited : Nat
  gathered : α

def Scan.next (scan : Scan K V α) (p : Progress K V α) : Except Fault (Progress K V α) :=
  match p.cache.shards[p.visited]? with
  | none => .error (.outOfBounds p.visited p.cache.shards.size)
  | some s => do
    let (gathered, s) ← scan.visit p.gathered s
    return {
      cache := { p.cache with shards := p.cache.shards.setIfInBounds p.visited s }
      visited := p.visited + 1
      gathered }

/-- The scan of a cache along with other threads' turns, which may come at any time between two
    visits. The history names those turns since the scan began, the latest first. -/
inductive Runs [ByteStream K] (scan : Scan K V α) (c : Sharded K V) :
    List (Turn K V) → Progress K V α → Prop
  | begun : Runs scan c [] ⟨c, 0, scan.start⟩
  | visited {history : List (Turn K V)} {p p' : Progress K V α} (runs : Runs scan c history p)
    (visits : scan.next p = .ok p') : Runs scan c history p'
  | turned {history : List (Turn K V)} {p : Progress K V α} {t : Turn K V} {c' : Sharded K V}
    (runs : Runs scan c history p) (took : p.cache.turn t = .ok c') :
    Runs scan c (t :: history) { p with cache := c' }

inductive Turned [ByteStream K] (c : Sharded K V) : Sharded K V → Prop
  | untouched : Turned c c
  | turned {c' c'' : Sharded K V} {t : Turn K V} (before : Turned c c')
    (took : c'.turn t = .ok c'') : Turned c c''

/-- Shards as they were when a scan visited them: there are `n` of them, and the first `n` shards
    have only moved on since. -/
structure Snapshots (c : Sharded K V) (n : Nat) (parts : List (Shard K V)) : Prop where
  intact : ∀ part ∈ parts, part.Intact
  onward : List.Forall₂ Shard.Onward parts (c.shards.toList.take n)

variable {c c' : Sharded K V} {n index : Nat} {parts : List (Shard K V)} {s s' : Shard K V}

theorem Snapshots.begun (c : Sharded K V) : c.Snapshots 0 [] :=
  ⟨List.forall_mem_nil _, .nil⟩

theorem Snapshots.visited (snapshots : c.Snapshots n parts) (intact : s.Intact)
    (here : c.shards.toList[n]? = some s) : c.Snapshots (n + 1) (parts ++ [s]) := by
  refine ⟨?_, ?_⟩
  · intro part member
    rcases List.mem_append.mp member with member | member
    · exact snapshots.intact part member
    · cases List.mem_singleton.mp member
      exact intact
  · rw [List.take_add_one, here]
    exact List.rel_append snapshots.onward (.cons (.refl intact) .nil)

theorem Snapshots.replaced (snapshots : c.Snapshots n parts)
    (replaced : c.Replaced index s s' c') (onward : s.Onward s')
    (intact : ∀ t ∈ c.shards.toList, t.Intact) : c'.Snapshots n parts :=
  ⟨snapshots.intact, Shard.onward_trans snapshots.onward
    (List.forall₂_take n (replaced.onward onward intact))⟩

theorem clear_of_cleared {shards : List (Shard K V)}
    (clears : List.Forall₂ (fun s s' => s.clear = .ok s') c.shards.toList shards) :
    c.clear = .ok { c with shards := shards.toArray } := by
  rw [clear, Array.mapM_eq_mapM_toList, mapM_eq_ok clears]
  rfl

theorem Snapshots.capacities (snapshots : c.Snapshots n parts) :
    parts.map Shard.capacity = (c.shards.toList.take n).map Shard.capacity := by
  rw [← List.forall₂_eq_eq_eq, List.forall₂_map_left_iff, List.forall₂_map_right_iff]
  exact snapshots.onward.imp fun _ _ onward => onward.capacity.symm

theorem take_shardCount (c : Sharded K V) :
    c.shards.toList.take c.shardCount = c.shards.toList :=
  List.take_of_length_le (Nat.le_of_eq Array.length_toList)

theorem Snapshots.count_le (snapshots : c.Snapshots n parts) (event : CacheEvent) :
    (parts.map (·.events.count event)).sum ≤ (Cache.sharded c).tally event := by
  have counted : (parts.map (·.events.count event)).sum ≤
      ((c.shards.toList.take n).map (·.events.count event)).sum := by
    refine List.Forall₂.sum_le_sum ?_
    rw [List.forall₂_map_left_iff, List.forall₂_map_right_iff]
    exact snapshots.onward.imp fun _ _ onward => onward.counted event
  rw [List.map_take] at counted
  exact Nat.le_trans counted ((List.take_sublist n _).sum_le_sum fun _ _ => Nat.zero_le _)

theorem Snapshots.len_le (snapshots : c.Snapshots n parts) :
    (parts.map Shard.len).sum ≤ (parts.map Shard.capacity).sum := by
  refine List.sum_le_sum ?_
  intro part member
  obtain ⟨l, m⟩ := snapshots.intact part member
  exact m.len_le

variable [ByteStream K]

theorem Snapshots.capacity_le (snapshots : c.Snapshots n parts) (steady : c.Steady) :
    (parts.map Shard.capacity).sum ≤ c.capacity := by
  rw [snapshots.capacities, List.map_take, ← steady.shares]
  exact (List.take_sublist n _).sum_le_sum fun _ _ => Nat.zero_le _

theorem Snapshots.capacity_eq (snapshots : c.Snapshots n parts) (steady : c.Steady)
    (all : n = c.shardCount) : (parts.map Shard.capacity).sum = c.capacity := by
  rw [snapshots.capacities, all, take_shardCount, steady.shares]

theorem Snapshots.fits (snapshots : c.Snapshots n parts) (steady : c.Steady)
    (counts : ∀ event, (Cache.sharded c).tally event < Word.bound) :
    (CacheMetrics.sum (parts.map Shard.metrics)).Fits := by
  have capacity := Nat.lt_of_le_of_lt (snapshots.capacity_le steady) steady.fits
  refine ⟨fun event => ?_, ?_, ?_⟩
  · rw [CacheMetrics.count_sum, List.map_map]
    exact Nat.lt_of_le_of_lt (snapshots.count_le event) (counts event)
  · rw [CacheMetrics.len_sum, List.map_map]
    exact Nat.lt_of_le_of_lt snapshots.len_le capacity
  · rw [CacheMetrics.capacity_sum, List.map_map]
    exact capacity

theorem Snapshots.total_len (snapshots : c.Snapshots n parts) (steady : c.Steady) :
    (parts.map Shard.len).foldlM Word.add 0 = .ok (parts.map Shard.len).sum ∧
      (parts.map Shard.len).sum ≤ c.capacity := by
  have le := Nat.le_trans snapshots.len_le (snapshots.capacity_le steady)
  have fits := steady.fits
  refine ⟨?_, le⟩
  rw [Word.foldlM_add (by omega), Nat.zero_add]

theorem Snapshots.total_metrics (snapshots : c.Snapshots n parts) (steady : c.Steady)
    (counts : ∀ event, (Cache.sharded c).tally event < Word.bound) :
    ∃ sum, (parts.map Shard.metrics).foldlM CacheMetrics.add {} = .ok sum := by
  obtain ⟨sum, total, _⟩ := (CacheMetrics.total_yields (parts.map Shard.metrics)).returns
    (Classical.not_not.mpr (snapshots.fits steady counts))
  exact ⟨sum, total⟩

section Steps

variable {scan : Scan K V α} {start : α} {part : Shard K V → β} {add : α → β → Except Fault α}
  {p p' : Progress K V α} {history : List (Turn K V)}

omit [ByteStream K] in
theorem Scan.next_eq_ok (visits : scan.next p = .ok p') :
    ∃ s s', scan.visit p.gathered s = .ok (p'.gathered, s') ∧
      p.cache.Replaced p.visited s s' p'.cache ∧ p'.visited = p.visited + 1 := by
  unfold Scan.next at visits
  split at visits
  · cases visits
  · rename_i s here
    obtain ⟨⟨gathered, s'⟩, visit, same⟩ := eq_ok_of_bind visits
    cases same
    exact ⟨s, s', visit, replaced_set here rfl, rfl⟩

omit [ByteStream K] in
theorem Scan.adding_next_eq_ok (visits : (adding start part add).next p = .ok p') :
    ∃ s, p.cache.shards.toList[p.visited]? = some s ∧
      add p.gathered (part s) = .ok p'.gathered ∧ p'.cache = p.cache ∧
      p'.visited = p.visited + 1 := by
  obtain ⟨s, s', visit, replaced, visited⟩ := Scan.next_eq_ok visits
  obtain ⟨gathered, added, same⟩ := eq_ok_of_bind visit
  cases same
  exact ⟨s, replaced.here, added, replaced.eq_self, visited⟩

structure Added (start : α) (part : Shard K V → β) (add : α → β → Except Fault α)
    (c : Sharded K V) (history : List (Turn K V)) (p : Progress K V α)
    (parts : List (Shard K V)) : Prop where
  steady : p.cache.Steady
  capacity : p.cache.capacity = c.capacity
  snapshots : p.cache.Snapshots p.visited parts
  summed : (parts.map part).foldlM add start = .ok p.gathered
  alone : history = [] → p.cache = c ∧ parts = c.shards.toList.take p.visited

theorem foldlM_concat {l : List β} {b : β} {a : α} (summed : l.foldlM add start = .ok a) :
    (l ++ [b]).foldlM add start = add a b := by
  rw [List.foldlM_append, summed]
  exact bind_pure (add a b)

/-- The next visit returns where the sum over all visited shards does. -/
theorem Added.next {parts : List (Shard K V)} (added : Added start part add c history p parts)
    (left : p.visited < p.cache.shardCount)
    (total : ∀ s, p.cache.Snapshots (p.visited + 1) (parts ++ [s]) →
      ∃ sum, ((parts ++ [s]).map part).foldlM add start = .ok sum) :
    ∃ p', (Scan.adding start part add).next p = .ok p' := by
  obtain ⟨s, here⟩ : ∃ s, p.cache.shards[p.visited]? = some s :=
    ⟨_, Array.getElem?_eq_getElem left⟩
  have listed : p.cache.shards.toList[p.visited]? = some s := by rwa [Array.getElem?_toList]
  have intact := added.steady.intact s (List.mem_of_getElem? listed)
  obtain ⟨sum, total⟩ := total s (added.snapshots.visited intact listed)
  rw [List.map_append] at total
  have visit := (foldlM_concat added.summed).symm.trans total
  exact ⟨_, by simp only [Scan.next, here, Scan.adding, visit]; rfl⟩

variable [LawfulBEq K]

theorem Runs.added (steady : c.Steady) (runs : Runs (.adding start part add) c history p) :
    ∃ parts, Added start part add c history p parts := by
  induction runs with
  | begun => exact ⟨[], steady, rfl, .begun c, rfl, fun _ => ⟨rfl, rfl⟩⟩
  | visited _ visits ih =>
    obtain ⟨parts, added⟩ := ih
    obtain ⟨s, here, summed, same, visited⟩ := Scan.adding_next_eq_ok visits
    have intact := added.steady.intact s (List.mem_of_getElem? here)
    refine ⟨parts ++ [s], same ▸ added.steady, same ▸ added.capacity, ?_, ?_, ?_⟩
    · rw [same, visited]
      exact added.snapshots.visited intact here
    · rw [List.map_append]
      exact (foldlM_concat added.summed).trans summed
    · intro quiet
      obtain ⟨unchanged, seen⟩ := added.alone quiet
      rw [unchanged] at here
      exact ⟨same.trans unchanged, by rw [visited, List.take_add_one, here, seen]; rfl⟩
  | turned _ took ih =>
    obtain ⟨parts, added⟩ := ih
    obtain ⟨index, s, s', replaced, makes⟩ := added.steady.turn_replaces took
    exact ⟨parts, added.steady.turn took, replaced.capacity.trans added.capacity,
      added.snapshots.replaced replaced makes.onward added.steady.intact, added.summed,
      fun quiet => absurd quiet (List.cons_ne_nil _ _)⟩

/-- How a scan that clears the shards stands: whatever the visited ones hold has been put there
    since, and as long as nothing came in between they are the ones there were, cleared. -/
structure Cleared (c : Sharded K V) (history : List (Turn K V)) (p : Progress K V Unit) : Prop where
  steady : p.cache.Steady
  router : p.cache.router = c.router
  capacity : p.cache.capacity = c.capacity
  fresh : ∀ i s, p.cache.shards.toList[i]? = some s → i < p.visited →
    ∀ key value, s.peek key = some value → .put key value ∈ history
  alone : history = [] →
    List.Forall₂ (fun s s' => s.clear = .ok s') (c.shards.toList.take p.visited)
        (p.cache.shards.toList.take p.visited) ∧
      p.cache.shards.toList.drop p.visited = c.shards.toList.drop p.visited

theorem Runs.cleared {p : Progress K V Unit} (steady : c.Steady) (runs : Runs .clear c history p) :
    Cleared c history p := by
  induction runs with
  | begun =>
    exact ⟨steady, rfl, rfl, fun _ _ _ before => absurd before (Nat.not_lt_zero _),
      fun _ => ⟨.nil, rfl⟩⟩
  | @visited history p p' _ visits ih =>
    obtain ⟨s, s', visit, replaced, visited⟩ := Scan.next_eq_ok visits
    obtain ⟨cleared, done, same⟩ := eq_ok_of_bind visit
    cases same
    obtain ⟨makes, empty⟩ := Shard.clear_makes done
    refine ⟨replaced.steady ih.steady makes fun _ _ => False.elim, replaced.router.trans ih.router,
      replaced.capacity.trans ih.capacity, ?_, ?_⟩
    · intro i shard found before key value present
      rcases replaced.getElem? found with ⟨_, rfl⟩ | ⟨other, found⟩
      · rw [empty] at present
        cases present
      · exact ih.fresh i shard found (by omega) key value present
    · intro quiet
      obtain ⟨behind, ahead⟩ := ih.alone quiet
      obtain ⟨bound, _⟩ := List.getElem?_eq_some_iff.mp replaced.here
      have here : c.shards.toList[p.visited]? = some s := by
        have next := congrArg (·[0]?) ahead
        simp only [List.getElem?_drop, Nat.add_zero, replaced.here] at next
        exact next.symm
      rw [visited, replaced.shards, List.take_add_one, List.take_add_one, here,
        List.getElem?_set_self bound, List.take_set_of_le (Nat.le_refl _),
        List.drop_set_of_lt (Nat.lt_succ_self _)]
      refine ⟨List.rel_append behind (.cons done .nil), ?_⟩
      have further := congrArg (List.drop 1) ahead
      rwa [List.drop_drop, List.drop_drop] at further
  | @turned history p t c' _ took ih =>
    obtain ⟨index, s, s', replaced, makes⟩ := ih.steady.turn_replaces took
    refine ⟨ih.steady.turn took, replaced.router.trans ih.router,
      replaced.capacity.trans ih.capacity, ?_,
      fun quiet => absurd quiet (List.cons_ne_nil _ _)⟩
    intro i shard found before key value present
    rcases replaced.getElem? found with ⟨rfl, rfl⟩ | ⟨_, found⟩
    · rcases makes.entries key value present with held | ⟨rfl, _⟩
      · exact List.mem_cons_of_mem _ (ih.fresh i s replaced.here before key value held)
      · exact List.mem_cons_self
    · exact List.mem_cons_of_mem _ (ih.fresh i shard found before key value present)

/-- What a scan keeps to, whatever turns other threads take between its visits: while it has `room`
    it can go on, and when it has visited every shard, it has come to what `post` says. -/
structure Scan.Sound (scan : Scan K V α) (c : Sharded K V) (room : Sharded K V → Prop)
    (post : List (Turn K V) → Progress K V α → Prop) : Prop where
  returns : ∀ {history p}, Runs scan c history p → p.visited < p.cache.shardCount →
    room p.cache → ∃ p', scan.next p = .ok p'
  sound : ∀ {history p}, Runs scan c history p → p.visited = p.cache.shardCount → post history p

theorem len_sound (steady : c.Steady) :
    Scan.len.Sound c (fun _ => True) fun history p => p.cache.capacity = c.capacity ∧
      p.gathered ≤ c.capacity ∧ (history = [] → c.len = .ok p.gathered) where
  returns runs left _ := by
    obtain ⟨parts, added⟩ := runs.added steady
    exact added.next left fun s snapshots => ⟨_, (snapshots.total_len added.steady).1⟩
  sound {history p} runs all := by
    obtain ⟨parts, added⟩ := runs.added steady
    obtain ⟨total, le⟩ := added.snapshots.total_len added.steady
    have gathered := Except.ok.inj (added.summed.symm.trans total)
    refine ⟨added.capacity, by rw [gathered, ← added.capacity]; exact le, ?_⟩
    intro quiet
    obtain ⟨unchanged, seen⟩ := added.alone quiet
    rw [← added.summed, seen, all, unchanged, take_shardCount]
    rfl

theorem metrics_sound (steady : c.Steady) :
    Scan.metrics.Sound c (fun c => ∀ event, (Cache.sharded c).tally event < Word.bound)
      fun history p => p.cache.capacity = c.capacity ∧ p.gathered.len ≤ c.capacity ∧
        p.gathered.capacity = c.capacity ∧ (history = [] → c.metrics = .ok p.gathered) where
  returns runs left counts := by
    obtain ⟨parts, added⟩ := runs.added steady
    exact added.next left fun s snapshots => snapshots.total_metrics added.steady counts
  sound {history p} runs all := by
    obtain ⟨parts, added⟩ := runs.added steady
    have gathered : p.gathered = CacheMetrics.sum (parts.map Shard.metrics) :=
      (CacheMetrics.total_yields (parts.map Shard.metrics)).of_ok added.summed
    have capacity := added.snapshots.capacity_eq added.steady all
    rw [added.capacity] at capacity
    refine ⟨added.capacity, ?_, ?_, ?_⟩
    · rw [gathered, CacheMetrics.len_sum, List.map_map, ← capacity]
      exact added.snapshots.len_le
    · rw [gathered, CacheMetrics.capacity_sum, List.map_map]
      exact capacity
    · intro quiet
      obtain ⟨unchanged, seen⟩ := added.alone quiet
      rw [← added.summed, seen, all, unchanged, take_shardCount]
      rfl

theorem clear_sound (steady : c.Steady) :
    Scan.clear.Sound c (fun c => (Cache.sharded c).tally .clearing + 1 < Word.bound)
      fun history p => p.cache.capacity = c.capacity ∧
        (∀ key value, p.cache.peek key = .ok (some value) → .put key value ∈ history) ∧
        (history = [] → c.clear = .ok p.cache) where
  returns {history p} runs left room := by
    obtain ⟨s, here⟩ : ∃ s, p.cache.shards[p.visited]? = some s :=
      ⟨_, Array.getElem?_eq_getElem left⟩
    have member : s ∈ p.cache.shards.toList :=
      List.mem_of_getElem? (Array.getElem?_toList.trans here)
    have fewer := Cache.within_tally (.sharded p.cache) s member .clearing
    obtain ⟨s', cleared, _⟩ := (Shard.clear_reaches s).returns
      (CacheEvents.not_full_of_count_le (n := (Cache.sharded p.cache).tally .clearing)
        (fun event listed => by cases List.mem_singleton.mp listed; exact fewer) room)
    exact ⟨_, by simp only [Scan.next, here, Scan.clear, cleared]; rfl⟩
  sound {history p} runs all := by
    have cleared := runs.cleared steady
    refine ⟨cleared.capacity, ?_, ?_⟩
    · intro key value present
      obtain ⟨s, here, found⟩ := cleared.steady.home key
      have shown : p.cache.peek key = .ok (s.peek key) := by
        rw [peek, found]
        rfl
      have bound := cleared.steady.routed key
      rw [Array.length_toList] at bound
      rw [shown] at present
      exact cleared.fresh _ s here (all ▸ bound) key value (Except.ok.inj present)
    · intro quiet
      obtain ⟨clears, ahead⟩ := cleared.alone quiet
      have nothing : p.cache.shards.toList.drop p.cache.shardCount = [] :=
        List.drop_of_length_le (Nat.le_of_eq Array.length_toList)
      have whole := List.take_append_drop p.cache.shardCount c.shards.toList
      rw [all, nothing] at ahead
      rw [← ahead, List.append_nil] at whole
      rw [all, whole, take_shardCount] at clears
      rw [clear_of_cleared clears, ← cleared.router, ← cleared.capacity]

theorem Turned.steady (turned : Turned c c') (steady : c.Steady) :
    c'.Steady ∧ c'.capacity = c.capacity := by
  induction turned with
  | untouched => exact ⟨steady, rfl⟩
  | turned _ took ih =>
    obtain ⟨steady', same⟩ := ih
    obtain ⟨_, _, _, replaced, _⟩ := steady'.turn_replaces took
    exact ⟨steady'.turn took, replaced.capacity.trans same⟩

/-- However the visits of a scan and the turns of other threads interleave, the scan reports no more
    entries than there is room for and the capacity as it is, and a key that is there when all
    shards were cleared was put there in the meantime. Alone, a scan is exact. -/
theorem scans_sound {capacity shards : Nat} (created : create capacity shards = .ok c)
    (fits : capacity < Word.bound) (turned : Turned c c') :
    c'.capacity = capacity ∧
    (∀ t : Turn K V, (∀ index, t = .clearShard index → index < c'.shardCount) →
      (∀ event, (Cache.sharded c').tally event + 1 < Word.bound) → ∃ c'', c'.turn t = .ok c'') ∧
    (Scan.len.Sound c' (fun _ => True) fun history p => p.cache.capacity = c'.capacity ∧
      p.gathered ≤ c'.capacity ∧ (history = [] → c'.len = .ok p.gathered)) ∧
    (Scan.metrics.Sound c' (fun c => ∀ event, (Cache.sharded c).tally event < Word.bound)
      fun history p => p.cache.capacity = c'.capacity ∧ p.gathered.len ≤ c'.capacity ∧
        p.gathered.capacity = c'.capacity ∧ (history = [] → c'.metrics = .ok p.gathered)) ∧
    (Scan.clear.Sound c' (fun c => (Cache.sharded c).tally .clearing + 1 < Word.bound)
      fun history p => p.cache.capacity = c'.capacity ∧
        (∀ key value, p.cache.peek key = .ok (some value) → .put key value ∈ history) ∧
        (history = [] → c'.clear = .ok p.cache)) ∧
    (∃ keys : List K, keys.Nodup ∧ (∀ key, key ∈ keys ↔ c'.contains key = .ok true) ∧
      c'.len = .ok keys.length) ∧
    ((Cache.sharded c').tally .clearing + 1 < Word.bound →
      ∃ c'', c'.clear = .ok c'' ∧ c''.len = .ok 0 ∧ ∀ key, c''.peek key = .ok none) := by
  obtain ⟨steady, same, _⟩ := create_steady created fits
  obtain ⟨steady', same'⟩ := turned.steady steady
  exact ⟨same'.trans same, steady'.turn_returns, len_sound steady', metrics_sound steady',
    clear_sound steady', steady'.len_exact, steady'.clear_empties⟩

/-- Another thread puts a key while the length of a cache of two shards is being taken. -/
theorem crossing_put_sound : ∃ c : Sharded Int64 String, create 3 2 = .ok c ∧ 3 < Word.bound ∧
    Turned c c ∧ ∃ p, Runs .len c [.put 1 "a"] p ∧ p.visited = p.cache.shardCount ∧
      p.gathered ≤ 3 := by
  obtain ⟨c, created, two⟩ : ∃ c : Sharded Int64 String, create 3 2 = .ok c ∧ c.shardCount = 2 :=
    ⟨_, rfl, rfl⟩
  have fits : 3 < Word.bound := by decide
  obtain ⟨steady, _, counts⟩ := create_steady created fits
  obtain ⟨capacity, turns, len, _⟩ := scans_sound created fits .untouched
  obtain ⟨p, visits⟩ := len.returns .begun (show 0 < c.shardCount by omega) trivial
  obtain ⟨_, _, _, unchanged, visited⟩ := Scan.adding_next_eq_ok visits
  have same : p.cache = c := unchanged
  have one : p.visited = 1 := visited
  obtain ⟨c', took⟩ := turns (.put 1 "a") (by simp) fun event => by rw [counts]; decide
  obtain ⟨_, _, _, put, _⟩ := steady.turn_replaces took
  have two' : c'.shardCount = 2 := by
    have kept := put.length
    rwa [Array.length_toList, Array.length_toList, show c.shards.size = 2 from two] at kept
  rw [← same] at took
  have run := Runs.turned (.visited .begun visits) took
  have left : p.visited < c'.shardCount := by omega
  obtain ⟨p', visits'⟩ := len.returns run left trivial
  obtain ⟨_, _, _, unchanged', visited'⟩ := Scan.adding_next_eq_ok visits'
  have run' := run.visited visits'
  have same' : p'.cache = c' := unchanged'
  have next : p'.visited = p.visited + 1 := visited'
  have all : p'.visited = p'.cache.shardCount := by rw [same']; omega
  refine ⟨c, created, fits, .untouched, p', run', all, ?_⟩
  have le := (len.sound run' all).2.1
  rwa [capacity] at le

end Steps

end Sharded

end CacheAside
