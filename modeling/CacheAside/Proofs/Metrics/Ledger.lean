import Mathlib.Algebra.Order.Ring.Nat
import CacheAside.Metrics.CacheMetrics
import CacheAside.Proofs.Replay

namespace CacheAside

/-- What a cache was asked in a run and what it gave up: how often something was to be inserted or
    looked up, how many removals found their key, how often a shard was cleared, and how many
    entries were popped and how many were dropped by clearings. -/
structure Ledger where
  insertions : Nat := 0
  lookups : Nat := 0
  removals : Nat := 0
  clearings : Nat := 0
  popped : Nat := 0
  dropped : Nat := 0
  deriving DecidableEq, Repr

namespace Ledger

def plus (a b : Ledger) : Ledger where
  insertions := a.insertions + b.insertions
  lookups := a.lookups + b.lookups
  removals := a.removals + b.removals
  clearings := a.clearings + b.clearings
  popped := a.popped + b.popped
  dropped := a.dropped + b.dropped

def total (entries : List Ledger) : Ledger := entries.foldr plus {}

/-- How many of the events there were no outcome could have spared. What is removed or evicted was
    inserted before. -/
def weight (l : Ledger) : Nat := l.insertions + l.lookups + l.clearings

theorem plus_assoc (a b c : Ledger) : (a.plus b).plus c = a.plus (b.plus c) := by
  simp only [plus, Nat.add_assoc]

theorem empty_plus (l : Ledger) : plus {} l = l := by
  simp only [plus, Nat.zero_add]

theorem weight_empty : weight {} = 0 := rfl

theorem weight_plus (a b : Ledger) : (a.plus b).weight = a.weight + b.weight := by
  simp only [weight, plus]
  omega

/-- What was counted while a length changed is what the ledger says: each entry that came in stayed
    or went out in one of the ways there are. -/
structure Explains (l : Ledger) (events : List CacheEvent) (before after : Nat) : Prop where
  entries : before + events.count .insertNew =
    after + events.count .eviction + events.count .removal + l.popped + l.dropped
  insertions : events.count .insertNew + events.count .insertUpdate = l.insertions
  lookups : events.count .getHit + events.count .getMiss = l.lookups
  removals : events.count .removal = l.removals
  clearings : events.count .clearing = l.clearings

/-- It makes no difference what else is there all the while. -/
theorem Explains.beside {l : Ledger} {events : List CacheEvent} {before after : Nat}
    (explains : l.Explains events before after) (others : Nat) :
    l.Explains events (others + before) (others + after) := by
  obtain ⟨entries, insertions, lookups, removals, clearings⟩ := explains
  exact ⟨by omega, insertions, lookups, removals, clearings⟩

variable {σ ω α : Type} {step : σ → ω → Except Fault (α × σ)} {weight : ω → Nat}

/-- What each step does to books, as long as their weight stays within a word, a run does to them
    with the total of its entries. -/
theorem run_booked (entry : Record σ ω α → Ledger) (Booked : Ledger → σ → Prop)
    (Minds : Record σ ω α → Prop)
    (serve : ∀ {books s} op, Booked books s → books.weight + weight op < Word.bound →
      ∃ answer s', step s op = .ok (answer, s') ∧
        (entry ⟨s, op, answer, s'⟩).weight = weight op ∧
        Booked (books.plus (entry ⟨s, op, answer, s'⟩)) s' ∧ Minds ⟨s, op, answer, s'⟩)
    {books : Ledger} {s : σ} {ops : List ω} (booked : Booked books s)
    (room : books.weight + (ops.map weight).sum < Word.bound) :
    ∃ journal s', replay (recording step) s ops = .ok (journal, s') ∧
      Booked (books.plus (total (journal.map entry))) s' ∧
      (books.plus (total (journal.map entry))).weight < Word.bound ∧ ∀ r ∈ journal, Minds r := by
  induction ops generalizing s books with
  | nil => exact ⟨[], s, rfl, booked, room, List.forall_mem_nil _⟩
  | cons op ops ih =>
    rw [List.map_cons, List.sum_cons] at room
    obtain ⟨answer, s₁, stepped, weighs, booked₁, minds⟩ := serve op booked (by omega)
    -- The rest of the run starts with this step's entry in the books.
    obtain ⟨journal, s', ran, rest⟩ := ih booked₁ (by rw [weight_plus, weighs]; omega)
    rw [plus_assoc] at rest
    obtain ⟨booked', room', minding⟩ := rest
    exact ⟨_, s', replay_cons (recording_eq_ok stepped) ran, booked', room',
      List.forall_mem_cons.mpr ⟨minds, minding⟩⟩

end Ledger

namespace CacheMetrics

/-- Counters and gauges as a ledger has them: what was inserted is there, or it was evicted,
    removed, popped or dropped. -/
structure Balances (m : CacheMetrics) (l : Ledger) : Prop where
  entries : m.inserts = m.len + m.evictions + m.removes + l.popped + l.dropped
  insertions : m.inserts + m.updates = l.insertions
  lookups : m.getHits + m.getMisses = l.lookups
  removals : m.removes = l.removals
  clearings : m.clears = l.clearings

variable {m m' : CacheMetrics} {l entry : Ledger} {events : List CacheEvent}

theorem Balances.of_fresh (counts : ∀ event, m.count event = 0) (len : m.len = 0) :
    m.Balances {} := by
  have inserts : m.inserts = 0 := counts .insertNew
  have updates : m.updates = 0 := counts .insertUpdate
  have getHits : m.getHits = 0 := counts .getHit
  have getMisses : m.getMisses = 0 := counts .getMiss
  have evictions : m.evictions = 0 := counts .eviction
  have removes : m.removes = 0 := counts .removal
  have clears : m.clears = 0 := counts .clearing
  constructor <;> simp [inserts, updates, getHits, getMisses, evictions, removes, clears, len]

theorem Balances.step (balances : m.Balances l) (explains : entry.Explains events m.len m'.len)
    (counted : ∀ event, m'.count event = m.count event + events.count event) :
    m'.Balances (l.plus entry) := by
  obtain ⟨entries, insertions, lookups, removals, clearings⟩ := balances
  obtain ⟨entries', insertions', lookups', removals', clearings'⟩ := explains
  have inserts : m'.inserts = m.inserts + events.count .insertNew := counted .insertNew
  have updates : m'.updates = m.updates + events.count .insertUpdate := counted .insertUpdate
  have getHits : m'.getHits = m.getHits + events.count .getHit := counted .getHit
  have getMisses : m'.getMisses = m.getMisses + events.count .getMiss := counted .getMiss
  have evictions : m'.evictions = m.evictions + events.count .eviction := counted .eviction
  have removes : m'.removes = m.removes + events.count .removal := counted .removal
  have clears : m'.clears = m.clears + events.count .clearing := counted .clearing
  constructor <;> simp only [Ledger.plus] <;> omega

theorem Balances.count_le (balances : m.Balances l) (event : CacheEvent) :
    m.count event ≤ l.weight := by
  obtain ⟨entries, insertions, lookups, removals, clearings⟩ := balances
  cases event <;> simp only [CacheEvents.count, Ledger.weight] <;> omega

/-- What an entry of a ledger explains has room in the counters, where its weight has. -/
theorem Balances.room {len : Nat} (balances : m.Balances l)
    (explains : entry.Explains events m.len len) (event : CacheEvent) :
    m.count event + events.count event ≤ l.weight + entry.weight := by
  obtain ⟨entries, insertions, lookups, removals, clearings⟩ := balances
  obtain ⟨entries', insertions', lookups', removals', clearings'⟩ := explains
  cases event <;> simp only [CacheEvents.count, Ledger.weight] <;> omega

/-- Where there is room for all lookups, their share of hits can be told. -/
theorem Balances.hitRatio (balances : m.Balances l) (room : l.weight < Word.bound) :
    ∃ ratio, m.hitRatio = .ok ratio := by
  have fits : m.getHits + m.getMisses < Word.bound := by
    have lookups := balances.lookups
    rw [Ledger.weight] at room
    omega
  rw [CacheMetrics.hitRatio, Word.add_of_lt fits]
  exact ⟨_, rfl⟩

end CacheMetrics

end CacheAside
