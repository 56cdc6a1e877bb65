import Mathlib.Algebra.Order.Ring.Nat
import CacheAside.Metrics.CacheMetrics
import CacheAside.Proofs.Yields

namespace CacheAside

theorem Word.add_then {α : Type} {full : Prop} {post : α → Prop} {a b : Nat}
    {f : Nat → Except Fault α} (room : ¬ full → a + b < bound)
    (rest : Yields full post (f (a + b))) : Yields full post (add a b >>= f) := by
  by_cases fits : a + b < bound
  · rw [add_of_lt fits]
    exact rest
  · rw [add_of_ge (Nat.not_lt.mp fits)]
    exact Classical.not_not.mp fun notFull => fits (room notFull)

namespace CacheMetrics

def plus (a b : CacheMetrics) : CacheMetrics where
  getHits := a.getHits + b.getHits
  getMisses := a.getMisses + b.getMisses
  inserts := a.inserts + b.inserts
  updates := a.updates + b.updates
  evictions := a.evictions + b.evictions
  removes := a.removes + b.removes
  clears := a.clears + b.clears
  len := a.len + b.len
  capacity := a.capacity + b.capacity

def sum (parts : List CacheMetrics) : CacheMetrics := parts.foldr plus {}

structure Fits (m : CacheMetrics) : Prop where
  counts : ∀ event, m.count event < Word.bound
  len : m.len < Word.bound
  capacity : m.capacity < Word.bound

variable {a b c start : CacheMetrics} {parts : List CacheMetrics}

@[simp] theorem count_plus (a b : CacheMetrics) (event : CacheEvent) :
    (plus a b).count event = a.count event + b.count event := by
  cases event <;> rfl

theorem plus_assoc (a b c : CacheMetrics) : plus (plus a b) c = plus a (plus b c) := by
  simp only [plus, Nat.add_assoc]

theorem empty_plus (m : CacheMetrics) : plus {} m = m := by
  simp only [plus, Nat.zero_add]

theorem Fits.of_plus (fits : (plus a b).Fits) : a.Fits where
  counts event := by
    have whole := fits.counts event
    rw [count_plus] at whole
    omega
  len := Nat.lt_of_le_of_lt (Nat.le_add_right _ _) fits.len
  capacity := Nat.lt_of_le_of_lt (Nat.le_add_right _ _) fits.capacity

theorem count_sum (parts : List CacheMetrics) (event : CacheEvent) :
    (sum parts).count event = (parts.map (·.count event)).sum := by
  induction parts with
  | nil => cases event <;> rfl
  | cons m parts ih =>
    rw [List.map_cons, List.sum_cons, ← ih]
    exact count_plus m (sum parts) event

theorem len_sum (parts : List CacheMetrics) : (sum parts).len = (parts.map len).sum := by
  induction parts with
  | nil => rfl
  | cons m parts ih => rw [List.map_cons, List.sum_cons, ← ih]; rfl

theorem capacity_sum (parts : List CacheMetrics) :
    (sum parts).capacity = (parts.map capacity).sum := by
  induction parts with
  | nil => rfl
  | cons m parts ih => rw [List.map_cons, List.sum_cons, ← ih]; rfl

theorem add_yields (a b : CacheMetrics) :
    Yields (¬ (plus a b).Fits) (· = plus a b) (add a b) := by
  have counts (fits : ¬¬ (plus a b).Fits) (event : CacheEvent) :
      a.count event + b.count event < Word.bound := by
    rw [← count_plus]
    exact (Classical.not_not.mp fits).counts event
  refine Word.add_then (counts · .getHit) ?_
  refine Word.add_then (counts · .getMiss) ?_
  refine Word.add_then (counts · .insertNew) ?_
  refine Word.add_then (counts · .insertUpdate) ?_
  refine Word.add_then (counts · .eviction) ?_
  refine Word.add_then (counts · .removal) ?_
  refine Word.add_then (counts · .clearing) ?_
  refine Word.add_then (fun fits => (Classical.not_not.mp fits).len) ?_
  refine Word.add_then (fun fits => (Classical.not_not.mp fits).capacity) ?_
  exact rfl

theorem foldlM_add_yields (start : CacheMetrics) (parts : List CacheMetrics) :
    Yields (¬ (plus start (sum parts)).Fits) (· = plus start (sum parts))
      (parts.foldlM add start) := by
  induction parts generalizing start with
  | nil => exact rfl
  | cons m parts ih =>
    have whole : plus start (sum (m :: parts)) = plus (plus start m) (sum parts) :=
      (plus_assoc start m (sum parts)).symm
    rw [List.foldlM_cons, whole]
    refine ((add_yields start m).mono (fun beyond fits => beyond fits.of_plus) fun _ s => s).bind ?_
    rintro _ rfl
    exact ih (plus start m)

/-- The total is the sum of its parts, and faults only where a field of that is no word. -/
theorem total_yields (parts : List CacheMetrics) :
    Yields (¬ (sum parts).Fits) (· = sum parts) (total parts) := by
  have folded := foldlM_add_yields {} parts
  rwa [empty_plus] at folded

end CacheMetrics

end CacheAside
