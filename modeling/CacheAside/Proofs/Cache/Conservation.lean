import CacheAside.Proofs.Cache.Counters
import CacheAside.Proofs.Cache.Product
import CacheAside.Proofs.Shard.Conservation

namespace CacheAside.Cache

section Ledger

variable {K V : Type}

def Op.entry (shards len : Nat) : Op K V → Answer V → Ledger
  | .put .., _ => { insertions := 1 }
  | .get _, _ => { lookups := 1 }
  | .remove _, .flag true => { removals := 1 }
  | .clear, _ => { clearings := shards, dropped := len }
  | _, _ => {}

def Op.weight (shards : Nat) : Op K V → Nat
  | .put .. | .get _ => 1
  | .clear => shards
  | _ => 0

def Op.raises (op : Op K V) : List CacheEvent := (op.asked?.map Shard.Op.raises).getD []

variable {op : Op K V} {ask : Shard.Op K V} {key : K}

theorem Op.weight_entry (shards len : Nat) (op : Op K V) (answer : Answer V) :
    (op.entry shards len answer).weight = op.weight shards := by
  cases op with
  | put | get => rfl
  | clear => simp [entry, weight, Ledger.weight]
  | remove key =>
    cases answer with
    | flag found => cases found <;> rfl
    | _ => rfl
  | _ => rfl

/-- On one key the ledger of a cache is that of the shard. -/
theorem Op.entry_reply (keyed : op.key? = some key) (asked : op.asked? = some ask)
    (shards len held : Nat) (answer : Shard.Answer K V) :
    op.entry shards len (op.reply answer) = ask.entry held answer := by
  cases op with
  | put | get =>
    cases asked
    rfl
  | remove | contains | peek =>
    cases asked
    cases answer with
    | value value => cases value <;> rfl
    | _ => rfl
  | clear => cases keyed
  | _ => cases asked

end Ledger

variable {K V : Type}

abbrev Journal (K V : Type) [BEq K] [Hashable K] := List (Record (Cache K V) (Op K V) (Answer V))

variable [BEq K] [Hashable K]

def held (c : Cache K V) : Nat := (c.shards.map Shard.len).sum

def sums (c : Cache K V) : CacheMetrics := .sum (c.shards.map Shard.metrics)

def entry (r : Record (Cache K V) (Op K V) (Answer V)) : Ledger :=
  r.op.entry r.before.shards.length r.before.held r.answer

def ledger (journal : Journal K V) : Ledger := .total (journal.map entry)

def Minds (r : Record (Cache K V) (Op K V) (Answer V)) : Prop :=
  ∀ event ∉ r.op.raises, r.after.tally event = r.before.tally event

/-- The metrics of a cache as the history of its operations has them. -/
structure Accounts (c : Cache K V) (journal : Journal K V) (m : CacheMetrics) : Prop where
  told : c.metrics = .ok m
  balances : m.Balances (ledger journal)
  len : c.len = .ok m.len
  capacity : c.capacity = m.capacity
  minds : ∀ r ∈ journal, Minds r

variable {c c' c₀ : Cache K V} {op : Op K V} {ops : List (Op K V)} {books : Ledger}
  {capacity : Nat} {policy : CachePolicy}

theorem sums_len (c : Cache K V) : c.sums.len = c.held := by
  rw [sums, CacheMetrics.len_sum, List.map_map]
  rfl

theorem Minds.of_counts {events : List CacheEvent} {answer : Answer V} (counts : c.Counts events c')
    (own : events ⊆ op.raises) : Minds ⟨c, op, answer, c'⟩ := by
  intro event other
  change c'.tally event = c.tally event
  rw [counts.tally, List.count_eq_zero_of_not_mem fun counted => other (own counted), Nat.add_zero]

theorem tally_of_cleared {shards shards' : List (Shard K V)}
    (cleared : List.Forall₂ Cleared shards shards') (event : CacheEvent) :
    (shards'.map fun s => s.events.count event).sum =
      (shards.map fun s => s.events.count event).sum +
        (List.replicate shards.length CacheEvent.clearing).count event := by
  induction cleared with
  | nil => rfl
  | cons here _ ih =>
    have counted := congrArg (·.count event) here.2.events
    simp only [CacheEvents.count_tallyAll, List.count_singleton] at counted
    simp only [List.map_cons, List.sum_cons, List.length_cons, List.replicate_succ,
      List.count_cons, ih, counted]
    omega

theorem held_of_cleared {shards shards' : List (Shard K V)}
    (cleared : List.Forall₂ Cleared shards shards') : (shards'.map Shard.len).sum = 0 := by
  induction cleared with
  | nil => rfl
  | cons here _ ih => rw [List.map_cons, List.sum_cons, ih, here.2.models.len, List.length_nil]

theorem explains_clear (shards len : Nat) :
    Ledger.Explains { clearings := shards, dropped := len }
      (List.replicate shards CacheEvent.clearing) len 0 := by
  constructor <;> simp [List.count_replicate]

variable [ByteStream K] {key : K}

theorem onShard_of_home {α : Type} (operation : Shard K V → Except Fault (α × Shard K V))
    {s s' : Shard K V} {answer : α} (home : c.shards[c.index key]? = some s)
    (served : operation s = .ok (answer, s')) :
    ∃ c', c.onShard key operation = .ok (answer, c') ∧ c.Became key s' c' := by
  cases c with
  | coarse c =>
    obtain rfl : c.shard = s := Option.some.inj home
    refine ⟨coarse ⟨s'⟩, ?_, rfl, fun _ => rfl⟩
    rw [onShard, served]
    rfl
  | sharded c =>
    refine ⟨sharded (c.withShard key s'), ?_, Array.toList_setIfInBounds, fun _ => rfl⟩
    simp only [onShard, shardOf_of_home home]
    change (operation s >>= _) = _
    rw [served]
    rfl

structure Booked (c₀ : Cache K V) (books : Ledger) (c : Cache K V) : Prop where
  wellFormed : c.WellFormed
  frame : c.frame = c₀.frame
  capacities : c.shards.map Shard.capacity = c₀.shards.map Shard.capacity
  balances : c.sums.Balances books

theorem Booked.step {events : List CacheEvent} {entry : Ledger} (booked : Booked c₀ books c)
    (wellFormed : c'.WellFormed) (frame : c'.frame = c.frame) (counts : c.Counts events c')
    (explains : entry.Explains events c.held c'.held) : Booked c₀ (books.plus entry) c' := by
  refine ⟨wellFormed, frame.trans booked.frame, counts.capacities.trans booked.capacities, ?_⟩
  rw [← sums_len, ← sums_len] at explains
  refine booked.balances.step explains fun event => ?_
  rw [sums, sums, count_sum_metrics, count_sum_metrics]
  exact counts.tally event

/-- What an entry of the books explains has room in the counters of every shard. -/
theorem Booked.not_full {events : List CacheEvent} {entry : Ledger} {len : Nat}
    (booked : Booked c₀ books c) (explains : entry.Explains events c.held len)
    (room : books.weight + entry.weight < Word.bound) {s : Shard K V} (member : s ∈ c.shards)
    {kinds : List CacheEvent} (counted : kinds ⊆ events) : ¬ s.events.Full kinds := by
  rintro ⟨event, listed, beyond⟩
  -- A shard has counted no more than all of them have, and for those together there is room.
  rw [← sums_len] at explains
  have fits := booked.balances.room explains event
  rw [sums, count_sum_metrics] at fits
  have part := c.within_tally s member event
  have once := List.count_pos_iff.mpr (counted listed)
  omega

theorem Booked.length (booked : Booked c₀ books c) : c.shards.length = c₀.shards.length := by
  have lengths := congrArg List.length booked.capacities
  rwa [List.length_map, List.length_map] at lengths

/-- What the metrics and the length of a cache come to, where words can hold them. -/
theorem Booked.gauges (booked : Booked c₀ books c) (room : books.weight < Word.bound)
    (small : (c₀.shards.map Shard.capacity).sum < Word.bound) :
    c.metrics = .ok c.sums ∧ c.len = .ok c.held := by
  rw [← booked.capacities] at small
  have counts : ∀ event, c.tally event < Word.bound := by
    intro event
    rw [← count_sum_metrics]
    exact Nat.lt_of_le_of_lt (booked.balances.count_le event) room
  have few : 0 + c.held < Word.bound := by
    have within := booked.wellFormed.len_le
    rw [held]
    omega
  refine ⟨booked.wellFormed.sums_metrics counts small, ?_⟩
  cases c with
  | coarse c => exact congrArg Except.ok (Nat.add_zero _).symm
  | sharded c => exact (Word.foldlM_add few).trans (congrArg Except.ok (Nat.zero_add _))

theorem Booked.step_clear (booked : Booked c₀ books c)
    (room : books.weight + c.shards.length < Word.bound) :
    ∃ c', c.step .clear = .ok (.done, c') ∧
      Booked c₀ (books.plus { clearings := c.shards.length, dropped := c.held }) c' ∧
      Minds ⟨c, .clear, .done, c'⟩ := by
  have explains := explains_clear c.shards.length c.held
  have notFull : ¬ c.Full [.clearing] := by
    rintro ⟨s, member, full⟩
    have listed : CacheEvent.clearing ∈ List.replicate c.shards.length CacheEvent.clearing :=
      List.mem_replicate.mpr ⟨(List.length_pos_of_mem member).ne', rfl⟩
    exact booked.not_full explains (by simpa [Ledger.weight] using room) member
      (List.cons_subset.mpr ⟨listed, List.nil_subset _⟩) full
  obtain ⟨c', cleared, parts, _⟩ := (clear_yields c).returns notFull
  have stepped : c.step .clear = .ok (.done, c') := by simp [Cache.step, cleared]
  have counts : c.Counts (List.replicate c.shards.length .clearing) c' :=
    ⟨tally_of_cleared parts, capacities_of_cleared parts⟩
  have emptied : c'.held = 0 := held_of_cleared parts
  refine ⟨c', stepped, booked.step (booked.wellFormed.clear.of_ok cleared) (clear_frame cleared)
    counts (emptied ▸ explains), Minds.of_counts counts ?_⟩
  intro event listed
  exact List.mem_singleton.mpr (List.eq_of_mem_replicate listed)

/-- An operation that does not reach the entries only reads. -/
theorem Booked.step_reading (booked : Booked c₀ books c) (entries : op.onEntries = false)
    (room : books.weight < Word.bound)
    (small : (c₀.shards.map Shard.capacity).sum < Word.bound) :
    ∃ answer, c.step op = .ok (answer, c) ∧
      op.entry c.shards.length c.held answer = {} := by
  obtain ⟨told, sized⟩ := booked.gauges room small
  cases op with
  | len => exact ⟨.size c.held c.capacity, by simp [Cache.step, sized], rfl⟩
  | metrics => exact ⟨.metrics c.sums, by simp [Cache.step, told], rfl⟩
  | hitRatio =>
    obtain ⟨ratio, share⟩ := booked.balances.hitRatio room
    refine ⟨.ratio ratio, ?_, rfl⟩
    rw [Cache.step, told]
    change (c.sums.hitRatio >>= _) = _
    rw [share]
    rfl
  | describe | policy | shardCount | shardCapacities | shardIndex => exact ⟨_, rfl, rfl⟩
  | put | get | remove | contains | peek | clear => cases entries

variable [LawfulBEq K]

theorem Booked.step_keyed (booked : Booked c₀ books c) (roomy : ∀ s ∈ c₀.shards, 0 < s.capacity)
    (keyed : op.key? = some key) (room : books.weight + op.weight c.shards.length < Word.bound) :
    ∃ answer c', c.step op = .ok (answer, c') ∧
      Booked c₀ (books.plus (op.entry c.shards.length c.held answer)) c' ∧
      Minds ⟨c, op, answer, c'⟩ := by
  have wf := booked.wellFormed
  obtain ⟨s, member, home⟩ := wf.home key
  obtain ⟨l, m⟩ := wf.intact s member
  obtain ⟨ask, asked, askEntries⟩ := Op.asked_of_entries (op.entries_of_key keyed)
  obtain ⟨answer, answered, _⟩ := Lru.serve_of_asked asked l s.capacity
  -- The shard of the key explains its own part; the entries of the other shards stand beside it.
  have part : s.len ≤ c.held := List.le_sum_of_mem (List.mem_map_of_mem member)
  have explains := (m.explains (roomy_of_capacities booked.capacities roomy s member)
    answered).beside (c.held - s.len)
  rw [← Op.entry_reply keyed asked c.shards.length c.held, show s.metrics.len = s.len from rfl,
    Nat.sub_add_cancel part] at explains
  have notFull := booked.not_full explains (by rwa [Op.weight_entry]) member
    (List.Subset.refl _)
  obtain ⟨⟨_, s'⟩, stepped, same, reached⟩ := (m.step ask askEntries).returns notFull
  obtain rfl := Option.some.inj (answered.symm.trans same)
  have served : Shard.interface.step s op = .ok (op.reply answer, s') := by
    rw [Shard.interface_step asked, stepped]
    rfl
  obtain ⟨c', done, became⟩ := onShard_of_home (Shard.interface.step · op) home served
  have frame := onShard_frame done
  rw [← step_eq_onShard c keyed] at done
  have counts := became.counts home ⟨reached.events, reached.capacity⟩
  have after : c.held - s.len + (l.step s.capacity ask).2.length = c'.held := by
    have moved : c'.held + s.len = c.held + s'.len := became.sum_map home Shard.len
    rw [← reached.models.len]
    omega
  rw [after] at explains
  refine ⟨op.reply answer, c', done, booked.step (wf.step done) frame counts explains,
    Minds.of_counts counts ?_⟩
  rw [Op.raises, asked]
  exact l.events_subset s.capacity ask

theorem Booked.serve (roomy : ∀ s ∈ c₀.shards, 0 < s.capacity)
    (small : (c₀.shards.map Shard.capacity).sum < Word.bound) (op : Op K V)
    (booked : Booked c₀ books c) (room : books.weight + op.weight c₀.shards.length < Word.bound) :
    ∃ answer c', c.step op = .ok (answer, c') ∧
      (op.entry c.shards.length c.held answer).weight = op.weight c₀.shards.length ∧
      Booked c₀ (books.plus (op.entry c.shards.length c.held answer)) c' ∧
      Minds ⟨c, op, answer, c'⟩ := by
  rw [← booked.length] at room ⊢
  cases entries : op.onEntries with
  | false =>
    obtain ⟨answer, stepped, free⟩ := booked.step_reading entries (by omega) small
    refine ⟨answer, c, stepped, Op.weight_entry _ _ op answer, ?_, fun _ _ => rfl⟩
    rw [free]
    exact booked
  | true =>
    cases keyed : op.key? with
    | some key =>
      obtain ⟨answer, c', stepped, after⟩ := booked.step_keyed roomy keyed room
      exact ⟨answer, c', stepped, Op.weight_entry _ _ op answer, after⟩
    | none =>
      obtain rfl := op.eq_clear entries keyed
      obtain ⟨c', stepped, after⟩ := booked.step_clear room
      exact ⟨.done, c', stepped, Op.weight_entry _ _ .clear (.done : Answer V), after⟩

omit [ByteStream K] [LawfulBEq K] in
theorem build_capacity (built : build capacity policy = .ok c) : c.capacity = capacity := by
  cases policy with
  | coarse =>
    simp only [build, Coarse.create] at built
    split_ifs at built
    · cases built
    · cases built
      rfl
  | sharded shards =>
    simp only [build, Sharded.create] at built
    split_ifs at built
    · cases built
    · cases built
    · cases built
      rfl

omit [LawfulBEq K] in
theorem Booked.of_build (built : build capacity policy = .ok c) : Booked c {} c := by
  have counts : ∀ event, c.sums.count event = 0 := fun event =>
    (count_sum_metrics c event).trans ((build_counters built).1 event)
  have empty : c.sums.len = 0 := by
    rw [sums_len, held, (build_shards built).1, List.map_map]
    refine List.sum_eq_zero ?_
    intro n member
    obtain ⟨_, _, rfl⟩ := List.mem_map.mp member
    rfl
  exact ⟨(build_wellFormed built).1, rfl, rfl, .of_fresh counts empty⟩

omit [LawfulBEq K] in
theorem Booked.capacity_eq (booked : Booked c₀ books c)
    (whole : (c₀.shards.map Shard.capacity).sum = c₀.capacity) :
    c.capacity = c.sums.capacity := by
  rw [sums, CacheMetrics.capacity_sum, List.map_map]
  change c.capacity = (c.shards.map Shard.capacity).sum
  rw [booked.capacities, whole]
  cases c with
  | coarse c =>
    cases c₀ with
    | coarse c₀ => exact (List.cons.inj booked.capacities).1
    | sharded c₀ => cases booked.frame
  | sharded c =>
    cases c₀ with
    | coarse c₀ => cases booked.frame
    | sharded c₀ => exact congrArg Prod.snd (Option.some.inj booked.frame)

/-- In every run that the counters have room for, each entry of a new cache is accounted for. -/
theorem build_accounts (built : build capacity policy = .ok c) (fits : capacity < Word.bound)
    (few : (ops.map (Op.weight c.shards.length)).sum < Word.bound) :
    ∃ journal c' m, replay (recording Cache.step) c ops = .ok (journal, c') ∧
      c'.Accounts journal m := by
  obtain ⟨_, roomy, whole⟩ := build_counters built
  have small : (c.shards.map Shard.capacity).sum < Word.bound := whole ▸ fits
  have room : ({} : Ledger).weight + (ops.map (Op.weight c.shards.length)).sum <
      Word.bound := by
    rwa [Ledger.weight_empty, Nat.zero_add]
  obtain ⟨journal, c', ran, booked, room', minds⟩ := Ledger.run_booked entry (Booked c) Minds
    (Booked.serve roomy small) (.of_build built) room
  rw [Ledger.empty_plus] at booked room'
  obtain ⟨told, sized⟩ := booked.gauges room' small
  exact ⟨journal, c', c'.sums, ran, told, booked.balances, by rw [sized, sums_len],
    booked.capacity_eq (whole.trans (build_capacity built).symm), minds⟩

/-- The conservation of entries: what a shard or a cache took in is there, or it was evicted,
    removed, popped or dropped by a clearing, and the counters tell how often. -/
theorem entries_conserved (positive : 0 < capacity) :
    (∀ ops : List (Shard.Op K V), (ops.map Shard.Op.weight).sum < Word.bound →
      ∃ journal s, replay (recording Shard.step) (.create capacity) ops = .ok (journal, s) ∧
        s.Accounts journal) ∧
    ∀ (policy : CachePolicy) (ops : List (Op K V)), policy ≠ .sharded 0 → capacity < Word.bound →
      (ops.map (Op.weight (policy.capacities capacity).length)).sum < Word.bound →
      ∃ c journal c' m, build capacity policy = .ok c ∧
        replay (recording Cache.step) c ops = .ok (journal, c') ∧ c'.Accounts journal m := by
  refine ⟨fun ops few => Shard.create_accounts positive few, ?_⟩
  intro policy ops requested fits few
  obtain ⟨c, built⟩ := build_ok (K := K) (V := V) positive requested
  have length : c.shards.length = (policy.capacities capacity).length := by
    rw [(build_shards built).1, List.length_map]
  rw [← length] at few
  obtain ⟨journal, c', m, ran, accounts⟩ := build_accounts built fits few
  exact ⟨c, journal, c', m, built, ran, accounts⟩

def turnoverRun : List (Shard.Op Int64 String) :=
  [.insert 1 "a", .insert 2 "b", .insert 3 "c", .get 1, .insert 4 "d", .get 2, .insert 4 "e",
    .remove 3, .remove 3, .popOldest, .peek 4, .clear, .hitRatio]

def refillingRun : List (Op Int64 String) :=
  [.put 1 "a", .put 2 "b", .put 3 "c", .put 4 "d", .get 1, .put 4 "e", .remove 4, .contains 2,
    .clear, .put 5 "f", .metrics]

theorem turnoverRun_conserved : 0 < 3 ∧ (turnoverRun.map Shard.Op.weight).sum < Word.bound ∧
    CachePolicy.sharded 2 ≠ .sharded 0 ∧ 3 < Word.bound ∧
    (refillingRun.map (Op.weight ((CachePolicy.sharded 2).capacities 3).length)).sum < Word.bound ∧
    (∃ journal s, replay (recording Shard.step) (.create 3) turnoverRun = .ok (journal, s) ∧
      s.Accounts journal) ∧
    ∃ c journal c' m, build 3 (.sharded 2) = .ok c ∧
      replay (recording Cache.step) c refillingRun = .ok (journal, c') ∧ c'.Accounts journal m :=
  ⟨by decide, by decide, by decide, by decide, by decide,
    (entries_conserved (by decide)).1 turnoverRun (by decide),
    (entries_conserved (by decide)).2 (.sharded 2) refillingRun (by decide) (by decide) (by decide)⟩

end CacheAside.Cache
