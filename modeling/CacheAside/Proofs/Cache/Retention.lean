import CacheAside.Proofs.Cache.Product
import CacheAside.Proofs.Shard.Window

namespace CacheAside

namespace Cache

theorem Op.concerns_of_overwrites {K V : Type} [BEq K] [LawfulBEq K] {op : Op K V} {key : K}
    (overwriting : op.overwrites key = true) (route : K → Nat) :
    op.concerns route (route key) = true := by
  cases op with
  | put other _ | remove other =>
    obtain rfl : other = key := eq_of_beq overwriting
    exact beq_self_eq_true _
  | clear => rfl
  | get | contains | peek | len | metrics | hitRatio | describe | policy | shardCount
    | shardCapacities | shardIndex => cases overwriting

variable {K V : Type} [BEq K] [Hashable K] [ByteStream K]

def beside (c : Cache K V) (key : K) (events : List (Event K V)) : List (Event K V) :=
  events.filter fun event => event.1.concerns c.index (c.index key)

/-- A run contains a last use of a key, which is neither removed nor cleared away since. -/
structure LastUse (key : K) (events before : List (Event K V)) (touch : Event K V)
    (since : List (Event K V)) : Prop where
  split : events = before ++ touch :: since
  touches : touch.touched? = some key
  unused : ∀ event ∈ since, event.touched? ≠ some key ∧ event.1.overwrites key = false

/-- How a cache keeps a key whose shard has this much room: after the run a read of the key finds
    nothing or the value of the last put. It does find it as long as too few other keys of the shard
    were used since the key was, and it does not once so many came in that nothing is left. -/
structure Retains (c : Cache K V) (room : Nat) (ops : List (Op K V)) (answers : List (Answer V))
    (key : K) (found : Option V) : Prop where
  lastPut : ∀ value, found = some value → LastPut ops key value
  readBack : ∀ before value, ops = before ++ [.put key value] → found = some value
  kept : ∀ before touch since, LastUse key (ops.zip answers) before touch since →
    countDistinct (touched (c.beside key since)) < room →
    ∃ value, found = some value ∧ LastPut ops key value
  displaced : ∀ before touch since, LastUse key (ops.zip answers) before touch since →
    room ≤ countDistinct (puts (c.beside key since)) →
    (∀ event ∈ c.beside key since, event.removed? = none) → found = none

variable [LawfulBEq K] {capacity : Nat} {policy : CachePolicy} {c : Cache K V}
  {ops : List (Op K V)} {answers : List (Answer V)} {key : K}

omit [Hashable K] [ByteStream K] in
theorem LastPut.concat_put {value given : V}
    (last : LastPut (ops ++ [.put key given]) key value) : value = given := by
  obtain ⟨before, after, shape, kept⟩ := last
  rcases List.eq_nil_or_concat' after with rfl | ⟨after, final, rfl⟩
  · cases (List.append_inj' shape rfl).2
    rfl
  · rw [← List.cons_append, ← List.append_assoc] at shape
    have same := (List.append_inj' shape rfl).2
    cases same
    have overwriting := kept (.put key given) (by simp)
    rw [Op.overwrites, beq_self_eq_true] at overwriting
    cases overwriting

omit [BEq K] [Hashable K] [ByteStream K] [LawfulBEq K] in
theorem Event.key?_of_touched {event : Event K V} (touches : event.touched? = some key) :
    event.1.key? = some key := by
  unfold touched? at touches
  split at touches
  · exact touches
  · exact touches
  · cases touches

omit [Hashable K] [ByteStream K] [LawfulBEq K] in
theorem LastUse.of_put {before : List (Op K V)} {value : V}
    (complete : answers.length = (before ++ [Op.put key value]).length) :
    ∃ earlier answer, LastUse key ((before ++ [Op.put key value]).zip answers) earlier
      (.put key value, answer) [] := by
  rcases List.eq_nil_or_concat' answers with rfl | ⟨first, answer, rfl⟩
  · simp at complete
  · rw [List.length_append, List.length_append] at complete
    have aligned : before.length = first.length := (Nat.add_right_cancel complete).symm
    exact ⟨before.zip first, answer, List.zip_append aligned, rfl, by simp⟩

omit [LawfulBEq K] in
theorem LastUse.beside {before since : List (Event K V)} {touch : Event K V}
    (use : LastUse key (ops.zip answers) before touch since) :
    c.beside key (ops.zip answers) = c.beside key before ++ touch :: c.beside key since := by
  have concerned : touch.1.concerns c.index (c.index key) = true := by
    rw [Op.concerns_of_key (Event.key?_of_touched use.touches), beq_self_eq_true]
  rw [use.split, Cache.beside, List.filter_append, List.filter_cons, if_pos concerned]
  rfl

omit [LawfulBEq K] in
theorem map_fst_beside (complete : answers.length = ops.length) :
    (c.beside key (ops.zip answers)).map Prod.fst =
      ops.filter (·.concerns c.index (c.index key)) := by
  have whole : (ops.zip answers).map Prod.fst = ops :=
    List.map_fst_zip (Nat.le_of_eq complete.symm)
  conv_rhs => rw [← whole, List.filter_map]
  rfl

/-- Where a key stands in its shard at the end of a run of the whole cache. -/
theorem LastUse.window {before since : List (Event K V)} {touch : Event K V} {s : Shard K V}
    (use : LastUse key (ops.zip answers) before touch since) (positive : 0 < s.capacity)
    (entries : ∀ op ∈ ops, op.onEntries = true) (complete : answers.length = ops.length)
    (alone : replay Shard.interface.step (.create s.capacity)
      (ops.filter (·.concerns c.index (c.index key))) =
        .ok (answersOn c.index (c.index key) ops answers, s)) :
    ∃ l, s.Models l ∧ Lru.Window s.capacity l key (c.beside key since) := by
  have ran : replay Shard.interface.step (.create s.capacity)
      ((c.beside key (ops.zip answers)).map Prod.fst) =
        .ok ((c.beside key (ops.zip answers)).map Prod.snd, s) := by
    rw [map_fst_beside complete]
    exact alone
  have entries' : ∀ event ∈ c.beside key (ops.zip answers), event.1.onEntries = true :=
    fun event member => entries _ (List.of_mem_zip (List.mem_filter.mp member).1).1
  rw [use.beside] at ran entries'
  exact (Shard.Models.create s.capacity).window_since_use positive entries' ran use.touches
    fun event member => use.unused event (List.mem_filter.mp member).1

/-- The retention window of a cache, read off the history of its operations. -/
theorem retention (positive : 0 < capacity) (requested : policy ≠ .sharded 0)
    (entries : ∀ op ∈ ops, op.onEntries = true) (short : ops.length + 1 < Word.bound) (key : K) :
    ∃ (c : Cache K V) (room : Nat) (answers : List (Answer V)) (c' : Cache K V) (found : Option V)
      (c'' : Cache K V), build capacity policy = .ok c ∧
      (policy.capacities capacity)[c.index key]? = some room ∧
      replay Cache.step c ops = .ok (answers, c') ∧ c'.get key = .ok (found, c'') ∧
      c'.contains key = .ok found.isSome ∧ c.Retains room ops answers key found := by
  obtain ⟨c, built⟩ := build_ok (K := K) (V := V) positive requested
  obtain ⟨wf, _, within⟩ := build_wellFormed built
  obtain ⟨answers, c', ran, served, within'⟩ := wf.serveAll entries within (by omega)
  have wf' := served.wellFormed
  have notFull : ¬ c'.Full CacheEvent.lookups := within'.not_full fun _ _ => by omega
  obtain ⟨⟨_, c''⟩, read, rfl, _, _⟩ := (wf'.get key).returns notFull
  obtain ⟨s, member, home⟩ := wf'.home key
  have home' : c'.shards[c.index key]? = some s := by rwa [← index_eq_of_frame served.frame]
  obtain ⟨room, alone⟩ := served.part (build_shards built).1 home'
  have roomy : 0 < s.capacity :=
    CachePolicy.capacities_pos positive requested (List.mem_of_getElem? room)
  have complete : answers.length = ops.length := length_of_replay ran
  have shown : c'.view key = s.peek key := view_of_home home
  have lastPut : ∀ value, c'.view key = some value → LastPut ops key value := by
    intro value found
    have entriesHere : ∀ op ∈ ops.filter (·.concerns c.index (c.index key)), op.onEntries = true :=
      fun op member => entries op (List.mem_filter.mp member).1
    exact (Shard.lastPut_of_create roomy entriesHere alone (shown ▸ found)).of_filter
      fun op overwriting => op.concerns_of_overwrites overwriting c.index
  have kept {before since : List (Event K V)} {touch : Event K V}
      (use : LastUse key (ops.zip answers) before touch since)
      (few : countDistinct (touched (c.beside key since)) < s.capacity) :
      ∃ value, c'.view key = some value ∧ LastPut ops key value := by
    obtain ⟨l, m, window⟩ := use.window roomy entries complete alone
    obtain ⟨pair, held⟩ := Option.isSome_iff_exists.mp (window.present few)
    have found : c'.view key = some pair.2 := by
      rw [shown, m.peek, Lru.peek, held]
      rfl
    exact ⟨pair.2, found, lastPut _ found⟩
  refine ⟨c, s.capacity, answers, c', c'.view key, c'', built, room, ran, read, wf'.contains key,
    lastPut, ?_, fun _ _ _ => kept, ?_⟩
  · rintro before value rfl
    obtain ⟨earlier, answer, use⟩ := LastUse.of_put complete
    obtain ⟨found, here, last⟩ := kept use roomy
    rw [here, last.concat_put]
  · intro before touch since use many unremoved
    obtain ⟨l, m, window⟩ := use.window roomy entries complete alone
    have absent := window.absent (m.len ▸ m.len_le) many unremoved
    rw [shown, m.peek, Lru.peek, absent]
    rfl

omit [LawfulBEq K] in
theorem answers_of_get {before after : List (Op K V)} {first : List (Answer V)}
    {c₁ c₂ c₃ : Cache K V} {found : Option V} (began : replay Cache.step c before = .ok (first, c₁))
    (read : c₁.get key = .ok (found, c₂))
    (ran : replay Cache.step c (before ++ .get key :: after) = .ok (answers, c₃)) :
    ∃ rest, answers = first ++ .value found :: rest := by
  obtain ⟨_, _, _, began', ran', rfl⟩ := replay_append_eq_ok ran
  cases began.symm.trans began'
  obtain ⟨answer, _, rest, stepped, _, rfl⟩ := replay_cons_eq_ok ran'
  rw [step, read] at stepped
  cases stepped
  exact ⟨rest, rfl⟩

omit [Hashable K] [ByteStream K] [LawfulBEq K] in
theorem LastPut.mem {value : V} (last : LastPut ops key value) : .put key value ∈ ops := by
  obtain ⟨before, after, rfl, _⟩ := last
  simp

def promotingRun : List (Op Int64 String) := [.put 1 "a", .put 2 "b", .get 1, .put 3 "c"]

def displacingRun : List (Op Int64 String) := promotingRun ++ [.put 4 "d"]

/-- Three keys come into two places, and the second one stays behind the first one, which was read
    in between. A fourth key leaves no place for the second one, whatever became of it before. -/
theorem promotingRun_retention : 0 < 2 ∧ CachePolicy.coarse ≠ .sharded 0 ∧
    (∀ op ∈ displacingRun, op.onEntries = true) ∧ displacingRun.length + 1 < Word.bound ∧
    ∃ c : Cache Int64 String, build 2 .coarse = .ok c ∧
      (∃ answers c' c'', replay Cache.step c promotingRun = .ok (answers, c') ∧
        c'.get 1 = .ok (some "a", c'') ∧ c.Retains 2 promotingRun answers 1 (some "a")) ∧
      ∃ answers c' c'', replay Cache.step c displacingRun = .ok (answers, c') ∧
        c'.get 2 = .ok (none, c'') ∧ c.Retains 2 displacingRun answers 2 none := by
  have places : 0 < 2 := by decide
  have coarse : CachePolicy.coarse ≠ .sharded 0 := by decide
  have entries : ∀ op ∈ displacingRun, op.onEntries = true := by decide
  have short : displacingRun.length + 1 < Word.bound := by decide
  have few (keys : List Int64) (less : keys.length < 2) : countDistinct keys < 2 :=
    (countDistinct_le_length (List.Subset.refl keys)).trans_lt less
  refine ⟨places, coarse, entries, short, .coarse ⟨.create 2⟩, rfl, ?_, ?_⟩
  · have begun : ∀ op ∈ displacingRun.take 2, op.onEntries = true := by decide
    obtain ⟨_, _, _, _, _, _, ⟨⟩, ⟨⟩, began, read₁, _, retains₁⟩ :=
      retention places coarse begun (by decide) 1
    obtain ⟨a, _, _, _, began', rfl⟩ := replay_cons_eq_ok began
    obtain ⟨b, _, _, _, ⟨⟩, rfl⟩ := replay_cons_eq_ok began'
    obtain ⟨value, rfl, last⟩ := retains₁.kept [] (.put 1 "a", a) [(.put 2 "b", b)]
      ⟨rfl, rfl, by simp [Event.touched?, Op.overwrites]⟩ (few [2] (by decide))
    obtain rfl : value = "a" := by simpa [displacingRun, promotingRun] using last.mem
    have promoting : ∀ op ∈ promotingRun, op.onEntries = true := by decide
    obtain ⟨_, _, _, c', _, c'', ⟨⟩, ⟨⟩, ran, read, _, retains⟩ :=
      retention places coarse promoting (by decide) 1
    obtain ⟨rest, rfl⟩ := answers_of_get began read₁ ran
    obtain ⟨d, rfl⟩ : ∃ d, rest = [d] := List.length_eq_one_iff.mp <| by
      simpa [promotingRun] using length_of_replay ran
    obtain ⟨value, rfl, last⟩ := retains.kept [(.put 1 "a", a), (.put 2 "b", b)]
      (.get 1, .value (some "a")) [(.put 3 "c", d)]
      ⟨rfl, rfl, by simp [Event.touched?, Op.overwrites]⟩ (few [3] (by decide))
    obtain rfl : value = "a" := by simpa [promotingRun] using last.mem
    exact ⟨_, c', c'', ran, read, retains⟩
  · obtain ⟨_, _, _, c', _, c'', ⟨⟩, ⟨⟩, ran, read, _, retains⟩ :=
      retention places coarse entries short 2
    obtain ⟨a₁, _, _, _, ran₁, rfl⟩ := replay_cons_eq_ok ran
    obtain ⟨a₂, _, _, _, ran₂, rfl⟩ := replay_cons_eq_ok ran₁
    obtain ⟨a₃, _, _, _, ran₃, rfl⟩ := replay_cons_eq_ok ran₂
    obtain ⟨a₄, _, _, _, ran₄, rfl⟩ := replay_cons_eq_ok ran₃
    obtain ⟨a₅, _, _, _, ⟨⟩, rfl⟩ := replay_cons_eq_ok ran₄
    have other : Event.touched? (Op.get (1 : Int64), a₃) ≠ some 2 := fun touches =>
      absurd (Event.key?_of_touched touches) (show ¬ some 1 = some (2 : Int64) by decide)
    have use : LastUse 2 (displacingRun.zip [a₁, a₂, a₃, a₄, a₅]) [(.put 1 "a", a₁)]
        (.put 2 "b", a₂) [(.get 1, a₃), (.put 3 "c", a₄), (.put 4 "d", a₅)] :=
      ⟨rfl, rfl, List.forall_mem_cons.mpr ⟨⟨other, rfl⟩, by simp [Event.touched?, Op.overwrites]⟩⟩
    have distinct : [(3 : Int64), 4].Nodup := by decide
    have many : 2 ≤ countDistinct [(3 : Int64), 4] :=
      length_le_countDistinct distinct (List.Subset.refl _)
    obtain rfl := retains.displaced _ _ _ use many <| List.forall_mem_cons.mpr
      ⟨rfl, List.forall_mem_cons.mpr ⟨rfl, List.forall_mem_singleton.mpr rfl⟩⟩
    exact ⟨_, c', c'', ran, read, retains⟩

end Cache

end CacheAside
