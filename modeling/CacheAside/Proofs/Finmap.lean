import Mathlib.Data.Finmap

namespace CacheAside

variable {α β : Type} [DecidableEq α] {m : Finmap fun _ : α => β} {a : α} {b : β}

theorem Finmap.keys_insert (m : Finmap fun _ : α => β) (a : α) (b : β) :
    (m.insert a b).keys = Insert.insert a m.keys := by
  ext other
  simp only [Finmap.mem_keys, Finmap.mem_insert, Finset.mem_insert]

theorem Finmap.card_keys_insert (absent : a ∉ m) :
    (m.insert a b).keys.card = m.keys.card + 1 := by
  rw [Finmap.keys_insert, Finset.card_insert_of_notMem (Finmap.mem_keys.not.mpr absent)]

theorem Finmap.card_keys_replace (present : a ∈ m) : (m.insert a b).keys.card = m.keys.card := by
  rw [Finmap.keys_insert, Finset.insert_eq_of_mem (Finmap.mem_keys.mpr present)]

theorem Finmap.card_keys_erase (present : a ∈ m) :
    (m.erase a).keys.card + 1 = m.keys.card := by
  rw [Finmap.keys_erase, Finset.card_erase_add_one (Finmap.mem_keys.mpr present)]

theorem Finmap.erase_of_notMem (absent : a ∉ m) : m.erase a = m := by
  refine Finmap.ext_lookup fun other => ?_
  by_cases same : other = a
  · subst same
    rw [Finmap.lookup_erase, Finmap.lookup_eq_none.mpr absent]
  · rw [Finmap.lookup_erase_ne same]

theorem Finmap.card_keys_eq_zero : m.keys.card = 0 ↔ m = ∅ := by
  rw [Finset.card_eq_zero]
  constructor
  · intro none
    refine Finmap.ext_lookup fun other => ?_
    rw [Finmap.lookup_empty, Finmap.lookup_eq_none, ← Finmap.mem_keys, none]
    exact Finset.notMem_empty other
  · rintro rfl
    exact Finmap.keys_empty

end CacheAside
