import CacheAside.Arena.Basic
import CacheAside.Proofs.Yields

namespace CacheAside.Arena

/-- The free list names every empty cell once and no other, and the rest are counted. -/
structure WellFormed {α : Type} (a : Arena α) : Prop where
  free_nodup : a.free.Nodup
  mem_free : ∀ index, index ∈ a.free ↔ a.cells[index]? = some none
  size_add_free : a.size + a.free.length = a.cells.size

variable {α : Type} {a : Arena α}

theorem get?_eq_some {slot : Slot} {value : α} :
    a.get? slot = some value ↔ a.cells[slot.index]? = some (some value) := by
  unfold get?
  cases a.cells[slot.index]? <;> simp

theorem contains_iff {slot : Slot} : a.contains slot = true ↔ ∃ value, a.get? slot = some value :=
  Option.isSome_iff_exists

theorem WellFormed.empty : (Arena.empty : Arena α).WellFormed :=
  ⟨List.nodup_nil, by simp [Arena.empty], rfl⟩

theorem get?_empty (slot : Slot) : (Arena.empty : Arena α).get? slot = none := rfl

theorem write_of_lt {index : Nat} (bound : index < a.cells.size) (cell : Option α) :
    a.write index cell = .ok (a.cells.set index cell bound) := dif_pos bound

theorem lt_of_getElem? {index : Nat} {cell : Option α} (found : a.cells[index]? = some cell) :
    index < a.cells.size := by
  obtain ⟨bound, _⟩ := Array.getElem?_eq_some_iff.mp found
  exact bound

theorem get?_of_set {index : Nat} {cell : Option α} {free : List Nat} {size : Nat}
    (bound : index < a.cells.size) (slot : Slot) :
    (Arena.mk (a.cells.set index cell bound) free size).get? slot =
      if slot = ⟨index⟩ then cell else a.get? slot := by
  obtain ⟨i⟩ := slot
  simp only [get?, Array.getElem?_set, Slot.mk.injEq]
  by_cases same : index = i
  · subst same
    simp
  · simp [same, Ne.symm same]

structure Inserted (a : Arena α) (value : α) (slot : Slot) (a' : Arena α) : Prop where
  wellFormed : a'.WellFormed
  vacant : a.get? slot = none
  get? : ∀ s, a'.get? s = if s = slot then some value else a.get? s
  size : a'.size = a.size + 1
  cells : a'.cells.size = max a.cells.size a'.size

theorem WellFormed.fill {index : Nat} {free : List Nat} (wf : a.WellFormed)
    (shape : a.free = index :: free) (bound : index < a.cells.size) (value : α) :
    a.Inserted value ⟨index⟩ ⟨a.cells.set index (some value) bound, free, a.size + 1⟩ := by
  have vacant : a.cells[index]? = some none :=
    (wf.mem_free index).mp (shape ▸ List.mem_cons_self)
  have nodup := wf.free_nodup
  have counted := wf.size_add_free
  rw [shape] at nodup counted
  rw [List.length_cons] at counted
  obtain ⟨fresh, nodup⟩ := List.nodup_cons.mp nodup
  refine ⟨⟨nodup, ?_, ?_⟩, by simp [Arena.get?, vacant], fun s => get?_of_set bound s, rfl, ?_⟩
  · intro i
    have old := wf.mem_free i
    rw [shape, List.mem_cons] at old
    simp only [Array.getElem?_set]
    by_cases same : index = i
    · subst same
      simp [fresh]
    · simpa [same, Ne.symm same] using old
  · simp only [Array.size_set]
    omega
  · simp only [Array.size_set]
    omega

theorem WellFormed.grow (wf : a.WellFormed) (shape : a.free = []) (value : α) :
    a.Inserted value ⟨a.cells.size⟩ ⟨a.cells.push (some value), [], a.size + 1⟩ := by
  have counted := wf.size_add_free
  have occupied := wf.mem_free
  rw [shape] at counted
  simp only [shape, List.not_mem_nil, false_iff] at occupied
  refine ⟨⟨List.nodup_nil, ?_, ?_⟩, by simp [Arena.get?], ?_, rfl, ?_⟩
  · intro i
    simp only [List.not_mem_nil, Array.getElem?_push, false_iff]
    by_cases last : i = a.cells.size
    · simp [last]
    · simpa [last] using occupied i
  · simpa using counted
  · rintro ⟨i⟩
    simp only [Arena.get?, Array.getElem?_push, Slot.mk.injEq]
    by_cases last : i = a.cells.size <;> simp [last]
  · simp only [Array.size_push]
    simp only [List.length_nil] at counted
    omega

theorem WellFormed.insert (wf : a.WellFormed) (value : α) :
    Yields (Word.bound ≤ a.size + 1) (fun (slot, a') => a.Inserted value slot a')
      (a.insert value) := by
  unfold Arena.insert
  cases shape : a.free with
  | nil =>
    apply (Word.add_yields a.size 1).bind
    intro size counted
    subst counted
    exact wf.grow shape value
  | cons index free =>
    have bound := lt_of_getElem? ((wf.mem_free index).mp (shape ▸ List.mem_cons_self))
    simp only [write_of_lt bound]
    apply (Word.add_yields a.size 1).bind
    intro size counted
    subst counted
    exact wf.fill shape bound value

theorem WellFormed.size_pos (wf : a.WellFormed) {slot : Slot} {value : α}
    (found : a.get? slot = some value) : 0 < a.size := by
  have occupied := get?_eq_some.mp found
  have bound := lt_of_getElem? occupied
  have fresh : slot.index ∉ a.free := by
    rw [wf.mem_free, occupied]
    simp
  have within : slot.index :: a.free ⊆ List.range a.cells.size := by
    intro i member
    rcases List.mem_cons.mp member with rfl | member
    · exact List.mem_range.mpr bound
    · exact List.mem_range.mpr (lt_of_getElem? ((wf.mem_free i).mp member))
  have short := (List.nodup_cons.mpr ⟨fresh, wf.free_nodup⟩).length_le_of_subset within
  have counted := wf.size_add_free
  simp only [List.length_cons, List.length_range] at short
  omega

structure Removed (a : Arena α) (slot : Slot) (a' : Arena α) : Prop where
  wellFormed : a'.WellFormed
  get? : ∀ s, a'.get? s = if s = slot then none else a.get? s
  size : a'.size + 1 = a.size
  cells : a'.cells.size = a.cells.size

theorem WellFormed.remove (wf : a.WellFormed) {slot : Slot} {value : α}
    (found : a.get? slot = some value) :
    ∃ a', a.remove slot = .ok (some value, a') ∧ a.Removed slot a' := by
  have occupied := get?_eq_some.mp found
  have bound := lt_of_getElem? occupied
  have positive := wf.size_pos found
  have counted := wf.size_add_free
  refine ⟨⟨a.cells.set slot.index none bound, slot.index :: a.free, a.size - 1⟩, ?_, ?_⟩
  · simp only [Arena.remove, found, write_of_lt bound, Word.sub_of_le positive]
    rfl
  · refine ⟨⟨?_, ?_, ?_⟩, fun s => get?_of_set bound s, by simp only; omega, by simp⟩
    · refine List.nodup_cons.mpr ⟨?_, wf.free_nodup⟩
      rw [wf.mem_free, occupied]
      simp
    · intro i
      simp only [List.mem_cons, Array.getElem?_set, wf.mem_free]
      by_cases same : slot.index = i
      · subst same
        simp
      · simp [same, Ne.symm same]
    · simp only [List.length_cons, Array.size_set]
      omega

theorem remove_of_vacant {slot : Slot} (vacant : a.get? slot = none) :
    a.remove slot = .ok (none, a) := by
  simp only [Arena.remove, vacant]
  rfl

theorem get?_modify (slot s : Slot) (f : α → α) :
    (a.modify slot f).get? s = if s = slot then (a.get? s).map f else a.get? s := by
  obtain ⟨index⟩ := slot
  obtain ⟨i⟩ := s
  simp only [get?, modify, Array.getElem?_modify, Slot.mk.injEq]
  by_cases same : index = i
  · subst same
    rcases a.cells[index]? with _ | _ | _ <;> simp
  · simp [same, Ne.symm same]

@[simp] theorem isSome_get?_modify (slot s : Slot) (f : α → α) :
    ((a.modify slot f).get? s).isSome = (a.get? s).isSome := by
  rw [get?_modify]
  split <;> simp

@[simp] theorem size_modify (slot : Slot) (f : α → α) : (a.modify slot f).size = a.size := rfl

theorem WellFormed.modify (wf : a.WellFormed) (slot : Slot) (f : α → α) :
    (a.modify slot f).WellFormed := by
  refine ⟨wf.free_nodup, ?_, ?_⟩
  · intro i
    rw [show (a.modify slot f).free = a.free from rfl, wf.mem_free]
    simp only [Arena.modify, Array.getElem?_modify]
    by_cases same : slot.index = i
    · rcases a.cells[i]? with _ | _ | _ <;> simp [same]
    · simp [same]
  · simpa [Arena.modify] using wf.size_add_free

end CacheAside.Arena
