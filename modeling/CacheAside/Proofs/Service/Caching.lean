import CacheAside.Proofs.Cache.Contents
import CacheAside.Proofs.Ends
import CacheAside.Service.Basic

namespace CacheAside.Service

variable {C : Type} {s s' : Service C}

structure Recached (s : Service C) (kinds : List CacheEvent) (s' : Service C) : Prop where
  leaves : s.cache.Leaves kinds s'.cache
  pool : s'.pool = s.pool
  acquireTimeout : s'.acquireTimeout = s.acquireTimeout

theorem lookup_ends (wf : s.cache.WellFormed) (key : Int64) :
    Ends (fun found s' => found = s.cache.view key ∧ s.Recached CacheEvent.lookups s' ∧
      ∀ key', s'.cache.view key' = s.cache.view key')
      (fun _ => s.cache.Full CacheEvent.lookups) (s.lookup key) := by
  have gets := wf.get key
  unfold lookup
  cases got : s.cache.get key with
  | error fault =>
    rw [got] at gets
    simp only [record, got]
    exact gets
  | ok result =>
    obtain ⟨found, cache⟩ := result
    rw [got] at gets
    obtain ⟨same, leaves, kept⟩ := gets
    simp only [record, got]
    cases found <;> exact ⟨same, ⟨leaves, rfl, rfl⟩, kept⟩

theorem fill_yields (wf : s.cache.WellFormed) (key : Int64) (value : String) :
    Yields (s.cache.Full CacheEvent.arrivals)
      (fun s' => s.Recached CacheEvent.arrivals s' ∧ ∀ key' value',
        s'.cache.view key' = some value' →
          key' = key ∧ value' = value ∨ s.cache.view key' = some value')
      (s.fill key value) := by
  apply (wf.put key value).bind
  rintro cache ⟨leaves, shown⟩
  exact ⟨⟨leaves, rfl, rfl⟩, shown⟩

theorem invalidate_yields (wf : s.cache.WellFormed) (key : Int64) (event : ServiceEvent) :
    Yields (s.cache.Full CacheEvent.departures)
      (fun s' => s.Recached CacheEvent.departures s' ∧
        ∀ key', s'.cache.view key' = if key == key' then none else s.cache.view key')
      (s.invalidate key event) := by
  apply (wf.remove key).bind
  rintro ⟨_, cache⟩ ⟨leaves, shown⟩
  exact ⟨⟨leaves, rfl, rfl⟩, shown⟩

end CacheAside.Service
