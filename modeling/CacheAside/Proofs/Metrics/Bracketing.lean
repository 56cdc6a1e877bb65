import CacheAside.Proofs.Metrics.Total

namespace CacheAside

theorem Word.add_bind {α : Type} (a b : Nat) (f : Nat → Except Fault α) :
    add a b >>= f = if a + b < bound then f (a + b) else .error .addOverflow := by
  by_cases fits : a + b < bound
  · rw [add_of_lt fits, if_pos fits]
    rfl
  · rw [add_of_ge (Nat.not_lt.mp fits), if_neg fits]
    rfl

namespace CacheMetrics

inductive Field where
  | count (event : CacheEvent)
  | len
  | capacity
  deriving DecidableEq, Repr

def value (m : CacheMetrics) : Field → Nat
  | .count event => m.count event
  | .len => m.len
  | .capacity => m.capacity

def Field.all : List Field :=
  [.count .getHit, .count .getMiss, .count .insertNew, .count .insertUpdate, .count .eviction,
    .count .removal, .count .clearing, .len, .capacity]

theorem Field.mem_all (field : Field) : field ∈ all := by
  cases field with
  | count event => cases event <;> decide
  | len | capacity => decide

variable {a b m : CacheMetrics} {parts parts' : List CacheMetrics}

theorem ext_value (same : ∀ field, a.value field = b.value field) : a = b := by
  obtain ⟨⟨_, _, _, _, _, _, _⟩, _, _⟩ := a
  obtain ⟨⟨_, _, _, _, _, _, _⟩, _, _⟩ := b
  obtain rfl := same (.count .getHit)
  obtain rfl := same (.count .getMiss)
  obtain rfl := same (.count .insertNew)
  obtain rfl := same (.count .insertUpdate)
  obtain rfl := same (.count .eviction)
  obtain rfl := same (.count .removal)
  obtain rfl := same (.count .clearing)
  obtain rfl := same .len
  obtain rfl := same .capacity
  rfl

theorem fits_iff : m.Fits ↔ ∀ field, m.value field < Word.bound := by
  constructor
  · intro fits field
    cases field with
    | count event => exact fits.counts event
    | len => exact fits.len
    | capacity => exact fits.capacity
  · intro words
    exact ⟨fun event => words (.count event), words .len, words .capacity⟩

instance (m : CacheMetrics) : Decidable m.Fits :=
  decidable_of_iff (∀ field ∈ Field.all, m.value field < Word.bound) <| by
    rw [fits_iff]
    exact ⟨fun words field => words field field.mem_all, fun words field _ => words field⟩

theorem value_plus (a b : CacheMetrics) (field : Field) :
    (plus a b).value field = a.value field + b.value field := by
  cases field with
  | count event => exact count_plus a b event
  | len | capacity => rfl

theorem value_sum (parts : List CacheMetrics) (field : Field) :
    (sum parts).value field = (parts.map (·.value field)).sum := by
  cases field with
  | count event => exact count_sum parts event
  | len => exact len_sum parts
  | capacity => exact capacity_sum parts

theorem sum_append (parts parts' : List CacheMetrics) :
    sum (parts ++ parts') = plus (sum parts) (sum parts') := by
  apply ext_value
  intro field
  rw [value_plus, value_sum, value_sum, value_sum, List.map_append, List.sum_append]

theorem sum_perm (same : parts.Perm parts') : sum parts = sum parts' := by
  apply ext_value
  intro field
  rw [value_sum, value_sum]
  exact (same.map _).sum_nat

theorem sum_singleton (m : CacheMetrics) : sum [m] = m := by
  apply ext_value
  intro field
  rw [value_sum, List.map_singleton, List.sum_singleton]

theorem Fits.of_plus_right (fits : (plus a b).Fits) : b.Fits := by
  rw [fits_iff] at fits ⊢
  intro field
  have whole := fits field
  rw [value_plus] at whole
  omega

/-- What becomes of a sum in a machine: words stay what they are, anything beyond is a fault. -/
def checked (m : CacheMetrics) : Except Fault CacheMetrics :=
  if m.Fits then .ok m else .error .addOverflow

theorem Fits.checked (fits : m.Fits) : m.checked = .ok m := if_pos fits

theorem add_eq_checked (a b : CacheMetrics) : add a b = (plus a b).checked := by
  by_cases fits : (plus a b).Fits
  · obtain ⟨_, returned, rfl⟩ := (add_yields a b).returns (Classical.not_not.mpr fits)
    rw [returned, fits.checked]
  · rw [checked, if_neg fits, add]
    simp only [Word.add_bind]
    -- Either one of the nine additions overflows, or all fields of the sum are words.
    split_ifs with hits misses inserts updates evictions removes clears len capacity
    case pos =>
      refine absurd ⟨fun event => ?_, len, capacity⟩ fits
      cases event <;> assumption
    all_goals rfl

/-- Two sums that may each have overflowed are added: the whole overflows if one of them did. -/
theorem add_checked (a b : CacheMetrics) :
    (do add (← a.checked) (← b.checked)) = (plus a b).checked := by
  by_cases fits : (plus a b).Fits
  · rw [fits.of_plus.checked, fits.of_plus_right.checked]
    exact add_eq_checked a b
  · rw [checked, checked]
    split_ifs
    · exact add_eq_checked a b
    · exact (if_neg fits).symm
    · exact (if_neg fits).symm
    · exact (if_neg fits).symm

theorem foldlM_add_eq_checked (fits : a.Fits) (parts : List CacheMetrics) :
    parts.foldlM add a = (plus a (sum parts)).checked := by
  induction parts generalizing a with
  | nil =>
    have whole : plus a (sum []) = a := rfl
    rw [whole, fits.checked]
    rfl
  | cons m parts ih =>
    have whole : plus a (sum (m :: parts)) = plus (plus a m) (sum parts) :=
      (plus_assoc a m (sum parts)).symm
    rw [List.foldlM_cons, add_eq_checked, whole, checked]
    split_ifs with more
    · exact ih more
    · exact (if_neg fun fits => more fits.of_plus).symm

/-- The total is checked once, as it were: no part of it overflows unless the whole does. -/
theorem total_eq_checked (parts : List CacheMetrics) : total parts = (sum parts).checked := by
  have none : Fits {} := by decide
  rw [total, foldlM_add_eq_checked none, empty_plus]

example :
    total [{ inserts := 3, len := 2, capacity := 4 }, { inserts := 1, len := 1, capacity := 3 }] =
      .ok { inserts := 4, len := 3, capacity := 7 } := by decide

inductive Bracketing where
  | part (m : CacheMetrics)
  | sum (left right : Bracketing)

namespace Bracketing

def leaves : Bracketing → List CacheMetrics
  | part m => [m]
  | sum left right => left.leaves ++ right.leaves

def eval : Bracketing → Except Fault CacheMetrics
  | part m => .ok m
  | sum left right => do add (← left.eval) (← right.eval)

theorem eval_eq_checked {b : Bracketing} (words : ∀ m ∈ b.leaves, m.Fits) :
    b.eval = (CacheMetrics.sum b.leaves).checked := by
  induction b with
  | part m =>
    rw [leaves, sum_singleton, (words m List.mem_cons_self).checked]
    rfl
  | sum left right ihl ihr =>
    rw [eval, ihl fun m member => words m (List.mem_append_left _ member),
      ihr fun m member => words m (List.mem_append_right _ member), add_checked, leaves,
      sum_append]

end Bracketing

/-- Metrics add up to the sums of their fields, or overflow where one of these sums is no word. So
    it does not matter in which order they are added up, nor what is added up first. -/
theorem total_whatever_order (parts : List CacheMetrics) :
    (total parts = .error .addOverflow ↔
      ∃ field, Word.bound ≤ (parts.map (·.value field)).sum) ∧
    ((∀ field, (parts.map (·.value field)).sum < Word.bound) →
      ∃ m, total parts = .ok m ∧ ∀ field, m.value field = (parts.map (·.value field)).sum) ∧
    (∀ parts', parts.Perm parts' → total parts' = total parts) ∧
    ((∀ m ∈ parts, m.Fits) → ∀ b : Bracketing,
      b.leaves.Perm parts ∨ b.leaves.Perm ({} :: parts) → b.eval = total parts) := by
  simp only [← value_sum]
  refine ⟨?_, ?_, ?_, ?_⟩
  · rw [total_eq_checked, checked]
    split_ifs with fits
    · simpa using fits_iff.mp fits
    · simpa [fits_iff] using fits
  · intro words
    have fits := fits_iff.mpr words
    exact ⟨sum parts, by rw [total_eq_checked, fits.checked], fun _ => rfl⟩
  · intro parts' same
    rw [total_eq_checked, total_eq_checked, sum_perm same]
  · rintro words b (same | same)
    · have all : ∀ m ∈ b.leaves, m.Fits := fun m member => words m (same.mem_iff.mp member)
      rw [Bracketing.eval_eq_checked all, total_eq_checked, sum_perm same]
    · have all : ∀ m ∈ b.leaves, m.Fits := by
        intro m member
        rcases List.mem_cons.mp (same.mem_iff.mp member) with rfl | member
        · decide
        · exact words m member
      rw [Bracketing.eval_eq_checked all, total_eq_checked, sum_perm same]
      exact congrArg checked (empty_plus (sum parts))

/-- Two counters that overflow when they are added do so wherever they stand. -/
theorem overflow_whatever_order :
    let full : CacheMetrics := { getHits := 2 ^ 64 - 1, len := 1, capacity := 2 };
    let hit : CacheMetrics := { getHits := 1, getMisses := 5, capacity := 2 };
    let idle : CacheMetrics := { clears := 3, capacity := 1 };
    (∀ m ∈ [full, idle, hit], m.Fits) ∧
    total [full, idle, hit] = .error .addOverflow ∧
    total [idle, hit, full] = .error .addOverflow ∧
    (Bracketing.sum (.part hit) (.sum (.part idle) (.part full))).eval = .error .addOverflow := by
  intro full hit idle
  obtain ⟨overflows, _, permuted, bracketed⟩ := total_whatever_order [full, idle, hit]
  have words : ∀ m ∈ [full, idle, hit], m.Fits := by decide
  have beyond := overflows.mpr ⟨.count .getHit, by decide⟩
  refine ⟨words, beyond, ?_, ?_⟩
  · rw [permuted [idle, hit, full] (by decide), beyond]
  · rw [bracketed words _ (.inl (by decide)), beyond]

end CacheMetrics

end CacheAside
