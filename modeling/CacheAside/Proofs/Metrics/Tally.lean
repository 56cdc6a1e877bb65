import CacheAside.Metrics.CacheEvents
import CacheAside.Proofs.Yields

namespace CacheAside.CacheEvents

def tally (c : CacheEvents) : CacheEvent → CacheEvents
  | .getHit => { c with getHits := c.getHits + 1 }
  | .getMiss => { c with getMisses := c.getMisses + 1 }
  | .insertNew => { c with inserts := c.inserts + 1 }
  | .insertUpdate => { c with updates := c.updates + 1 }
  | .eviction => { c with evictions := c.evictions + 1 }
  | .removal => { c with removes := c.removes + 1 }
  | .clearing => { c with clears := c.clears + 1 }

def tallyAll (c : CacheEvents) (events : List CacheEvent) : CacheEvents := events.foldl tally c

theorem tallyAll_concat (c : CacheEvents) (events : List CacheEvent) (event : CacheEvent) :
    c.tallyAll (events ++ [event]) = (c.tallyAll events).tally event := List.foldl_append

theorem count_tally (c : CacheEvents) (event counted : CacheEvent) :
    (c.tally event).count counted = c.count counted + if event = counted then 1 else 0 := by
  cases event <;> cases counted <;> rfl

theorem count_tallyAll (c : CacheEvents) (events : List CacheEvent) (counted : CacheEvent) :
    (c.tallyAll events).count counted = c.count counted + events.count counted := by
  induction events generalizing c with
  | nil => rfl
  | cons event events ih =>
    change ((c.tally event).tallyAll events).count counted = _
    rw [ih, count_tally, List.count_cons]
    by_cases same : event = counted
    · simp [same]
      omega
    · simp [same]

def Full (c : CacheEvents) (kinds : List CacheEvent) : Prop :=
  ∃ event ∈ kinds, Word.bound ≤ c.count event + 1

theorem Full.mono {c : CacheEvents} {kinds more : List CacheEvent} (full : c.Full kinds)
    (listed : kinds ⊆ more) : c.Full more := by
  obtain ⟨event, member, beyond⟩ := full
  exact ⟨event, listed member, beyond⟩

theorem not_full_of_count_le {c : CacheEvents} {kinds : List CacheEvent} {n : Nat}
    (counts : ∀ event ∈ kinds, c.count event ≤ n) (room : n + 1 < Word.bound) :
    ¬ c.Full kinds := by
  rintro ⟨event, member, beyond⟩
  have := counts event member
  omega

theorem record_yields (c : CacheEvents) (event : CacheEvent) :
    Yields (c.Full [event]) (fun c' => c' = c.tally event) (c.record event) := by
  have full : ∀ n, n = c.count event → Word.bound ≤ n + 1 → c.Full [event] :=
    fun n same beyond => ⟨event, List.mem_singleton_self event, same ▸ beyond⟩
  cases event <;>
  · apply Yields.bind ((Word.add_yields _ 1).mono (full _ rfl) fun _ sum => sum)
    intro sum counted
    subst counted
    exact Yields.pure rfl

end CacheAside.CacheEvents
