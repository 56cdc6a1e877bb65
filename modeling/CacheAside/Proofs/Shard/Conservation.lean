import CacheAside.Proofs.Metrics.Ledger
import CacheAside.Proofs.Shard.Contents
import CacheAside.Proofs.Shard.Refinement

namespace CacheAside

namespace Shard.Op

variable {K V : Type}

def entry (len : Nat) : Op K V → Answer K V → Ledger
  | .insert .., _ => { insertions := 1 }
  | .get _, _ => { lookups := 1 }
  | .remove _, .value (some _) => { removals := 1 }
  | .popOldest, .entry (some _) => { popped := 1 }
  | .clear, _ => { clearings := 1, dropped := len }
  | _, _ => {}

def weight : Op K V → Nat
  | .insert .. | .get _ | .clear => 1
  | _ => 0

def raises : Op K V → List CacheEvent
  | .insert .. => CacheEvent.arrivals
  | .get _ => CacheEvent.lookups
  | .remove _ => CacheEvent.departures
  | .clear => [.clearing]
  | _ => []

theorem weight_entry (len : Nat) (op : Op K V) (answer : Answer K V) :
    (op.entry len answer).weight = op.weight := by
  cases op with
  | insert | get | clear => rfl
  | remove key =>
    cases answer with
    | value value => cases value <;> rfl
    | _ => rfl
  | popOldest =>
    cases answer with
    | entry entry => cases entry <;> rfl
    | _ => rfl
  | _ => rfl

end Shard.Op

namespace Lru

variable {K V : Type} [BEq K] {l : Lru K V} {capacity : Nat}

theorem events_subset (l : Lru K V) (capacity : Nat) (op : Shard.Op K V) :
    l.events capacity op ⊆ op.raises := by
  cases op with
  | insert key value =>
    simp only [events, evictions]
    split_ifs <;> simp [Shard.Op.raises, CacheEvent.arrivals]
  | get key =>
    simp only [events]
    split_ifs <;> simp [Shard.Op.raises, CacheEvent.lookups]
  | remove key =>
    simp only [events]
    split_ifs <;> simp [Shard.Op.raises, CacheEvent.departures]
  | _ => exact List.Subset.refl _

/-- One more entry for the insertion, and the length grows unless another one goes. -/
theorem explains_insert (l : Lru K V) (positive : 0 < capacity) (key : K) (value : V) :
    Ledger.Explains { insertions := 1 } (l.events capacity (.insert key value)) l.length
      (l.insert capacity key value).2.length := by
  simp only [events, insert, evictions]
  cases found : l.pair? key with
  | some entry =>
    have fewer := length_without found
    constructor <;> simp
    omega
  | none =>
    by_cases full : l.length = capacity
    · constructor <;> simp [full, Nat.ne_of_gt positive]
      omega
    · constructor <;> simp [full, Nat.ne_of_gt positive]

/-- What an operation on a list of pairs comes to in a ledger explains what a shard counts. -/
theorem explains (positive : 0 < capacity) {op : Shard.Op K V} {answer : Shard.Answer K V}
    (answered : (l.step capacity op).1 = some answer) :
    (op.entry l.length answer).Explains (l.events capacity op) l.length
      (l.step capacity op).2.length := by
  cases op with
  | insert key value => exact explains_insert l positive key value
  | get key =>
    cases answered
    simp only [step, events, get]
    cases found : l.pair? key with
    | some entry =>
      have fewer := length_without found
      constructor <;> simp [Shard.Op.entry, fewer]
    | none => constructor <;> simp [Shard.Op.entry]
  | remove key =>
    cases answered
    simp only [step, events, remove, peek]
    cases found : l.pair? key with
    | some entry =>
      have fewer := length_without found
      constructor <;> simp [Shard.Op.entry, fewer]
    | none =>
      have unchanged : l.without key = l :=
        List.eraseP_of_forall_not fun entry member => by simp [pair?_eq_none.mp found entry member]
      constructor <;> simp [Shard.Op.entry, unchanged]
  | popOldest =>
    cases answered
    rcases List.eq_nil_or_concat' l with rfl | ⟨front, entry, rfl⟩
    · constructor <;> rfl
    · constructor <;> simp [Shard.Op.entry, step, popOldest, events]
  | clear =>
    cases answered
    constructor <;> simp [Shard.Op.entry, step, events]
  | peek | peekOldest | rank | contains =>
    cases answered
    constructor <;> simp [Shard.Op.entry, step, events]
  | metrics | hitRatio | describe => cases answered

end Lru

namespace Shard

variable {K V : Type}

abbrev Journal (K V : Type) [BEq K] [Hashable K] := List (Record (Shard K V) (Op K V) (Answer K V))

variable [BEq K] [Hashable K]

def entry (r : Record (Shard K V) (Op K V) (Answer K V)) : Ledger :=
  r.op.entry r.before.len r.answer

def ledger (journal : Journal K V) : Ledger := .total (journal.map entry)

def Minds (r : Record (Shard K V) (Op K V) (Answer K V)) : Prop :=
  ∀ event ∉ r.op.raises, r.after.events.count event = r.before.events.count event

structure Accounts (s : Shard K V) (journal : Journal K V) : Prop where
  balances : s.metrics.Balances (ledger journal)
  minds : ∀ r ∈ journal, Minds r

variable {s s' : Shard K V} {l l' : Lru K V} {op : Op K V} {ops : List (Op K V)} {books : Ledger}

theorem Models.explains (m : s.Models l) (positive : 0 < s.capacity) {answer : Answer K V}
    (answered : (l.step s.capacity op).1 = some answer) :
    (op.entry s.len answer).Explains (l.events s.capacity op) s.metrics.len
      (l.step s.capacity op).2.length := by
  change Ledger.Explains _ _ s.len _
  rw [m.len]
  exact Lru.explains positive answered

/-- The counters have room for what an operation counts, where they have for its weight. -/
theorem Models.not_full (m : s.Models l) (positive : 0 < s.capacity)
    (balances : s.metrics.Balances books) (entries : op.onEntries = true)
    (room : books.weight + op.weight < Word.bound) : ¬ s.events.Full (l.events s.capacity op) := by
  rintro ⟨event, counted, beyond⟩
  obtain ⟨answer, answered⟩ : ∃ answer, (l.step s.capacity op).1 = some answer := by
    cases op with
    | metrics | hitRatio | describe => cases entries
    | _ => exact ⟨_, rfl⟩
  have fits := balances.room (m.explains positive answered) event
  have once := List.count_pos_iff.mpr counted
  rw [Op.weight_entry] at fits
  change s.events.count event + _ ≤ _ at fits
  omega

theorem Reaches.balances (reached : s.Reaches (l.step s.capacity op).2 (l.events s.capacity op) s')
    (m : s.Models l) (positive : 0 < s.capacity) (balances : s.metrics.Balances books)
    {answer : Answer K V} (answered : (l.step s.capacity op).1 = some answer) :
    s'.metrics.Balances (books.plus (op.entry s.len answer)) := by
  have explains := m.explains positive answered
  rw [← reached.models.len] at explains
  refine balances.step explains fun event => ?_
  change s'.events.count event = s.events.count event + _
  rw [reached.events, CacheEvents.count_tallyAll]

theorem Reaches.minds (reached : s.Reaches l (l'.events s.capacity op) s') {answer : Answer K V} :
    Minds ⟨s, op, answer, s'⟩ := by
  intro event other
  have uncounted := List.count_eq_zero_of_not_mem fun counted =>
    other (Lru.events_subset l' s.capacity op counted)
  change s'.events.count event = s.events.count event
  rw [reached.events, CacheEvents.count_tallyAll, uncounted, Nat.add_zero]

variable [EquivBEq K] [LawfulHashable K]

structure Booked (books : Ledger) (s : Shard K V) : Prop where
  intact : s.Intact
  positive : 0 < s.capacity
  balances : s.metrics.Balances books

/-- Whatever operation comes next, the books stay balanced. -/
theorem Booked.serve (op : Op K V) (booked : Booked books s)
    (room : books.weight + op.weight < Word.bound) :
    ∃ answer s', s.step op = .ok (answer, s') ∧ (op.entry s.len answer).weight = op.weight ∧
      Booked (books.plus (op.entry s.len answer)) s' ∧ Minds ⟨s, op, answer, s'⟩ := by
  obtain ⟨⟨l, m⟩, positive, balances⟩ := booked
  cases entries : op.onEntries with
  | true =>
    obtain ⟨⟨answer, s'⟩, stepped, answered, reached⟩ :=
      (m.step op entries).returns (m.not_full positive balances entries room)
    exact ⟨answer, s', stepped, Op.weight_entry _ op answer, ⟨⟨_, reached.models⟩,
      reached.capacity ▸ positive, reached.balances m positive balances answered⟩, reached.minds⟩
  | false =>
    cases op with
    | metrics | describe =>
      exact ⟨_, s, rfl, rfl, ⟨⟨l, m⟩, positive, balances⟩, fun _ _ => rfl⟩
    | hitRatio =>
      obtain ⟨ratio, told⟩ := balances.hitRatio (Nat.lt_of_le_of_lt (Nat.le_add_right _ _) room)
      have stepped : s.step .hitRatio = .ok (.ratio ratio, s) := by simp [Shard.step, told]
      exact ⟨_, s, stepped, rfl, ⟨⟨l, m⟩, positive, balances⟩, fun _ _ => rfl⟩
    | _ => cases entries

/-- In every run that the counters have room for, each entry of a new shard is accounted for. -/
theorem create_accounts {capacity : Nat} (positive : 0 < capacity)
    (few : (ops.map Op.weight).sum < Word.bound) :
    ∃ journal s, replay (recording Shard.step) (create capacity : Shard K V) ops =
      .ok (journal, s) ∧ s.Accounts journal := by
  have fresh : (create capacity : Shard K V).metrics.Balances {} :=
    .of_fresh (fun event => by cases event <;> rfl) rfl
  obtain ⟨journal, s, ran, booked, _, minds⟩ :=
    Ledger.run_booked entry Booked Minds Booked.serve ⟨.create capacity, positive, fresh⟩
      (by rwa [Ledger.weight_empty, Nat.zero_add])
  exact ⟨journal, s, ran, Ledger.empty_plus (ledger journal) ▸ booked.balances, minds⟩

end Shard

end CacheAside
