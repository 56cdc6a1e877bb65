import CacheAside.Proofs.Recency.Sequence

namespace CacheAside

namespace Arena

variable {α : Type} {a a' : Arena α} {slot : Slot}

@[simp] theorem cells_modify (slot : Slot) (f : α → α) :
    (a.modify slot f).cells.size = a.cells.size := Array.size_modify

theorem cells_write {index : Nat} {cell : Option α} {cells : Array (Option α)}
    (written : a.write index cell = .ok cells) : cells.size = a.cells.size := by
  unfold write at written
  split at written
  · cases written
    exact Array.size_set _
  · cases written

theorem cells_remove {value : Option α} (removed : a.remove slot = .ok (value, a')) :
    a'.cells.size = a.cells.size := by
  unfold remove at removed
  split at removed
  · cases removed
    rfl
  · obtain ⟨cells, written, rest⟩ := eq_ok_of_bind removed
    obtain ⟨size, _, same⟩ := eq_ok_of_bind rest
    cases same
    exact cells_write written

end Arena

namespace Recency

variable {K : Type} {l l' : Recency K} {nodes : Arena (Node K)} {places : List (Slot × K)}
  {slot : Slot} {key : Option K}

def cells (l : Recency K) : Nat := l.nodes.cells.size

@[simp] theorem cells_setNewer (place newer : Option Slot) :
    (setNewer nodes place newer).cells.size = nodes.cells.size := by
  cases place with
  | none => rfl
  | some slot => exact Arena.cells_modify slot _

@[simp] theorem cells_setOlder (place older : Option Slot) :
    (setOlder nodes place older).cells.size = nodes.cells.size := by
  cases place with
  | none => rfl
  | some slot => exact Arena.cells_modify slot _

@[simp] theorem cells_lead (nodes : Arena (Node K)) (slot : Slot) :
    (l.lead nodes slot).cells = nodes.cells.size := cells_setNewer _ _

theorem cells_detach (detached : l.detach slot = some l') : l'.cells = l.cells := by
  unfold detach at detached
  split at detached
  · cases detached
  · cases detached
    simp [cells]

theorem cells_remove (removed : l.remove slot = .ok (key, l')) : l'.cells = l.cells := by
  unfold remove at removed
  split at removed
  · cases removed
    rfl
  · rename_i rest detached
    obtain ⟨⟨node, nodes⟩, taken, same⟩ := eq_ok_of_bind removed
    cases same
    exact (Arena.cells_remove taken).trans (cells_detach detached)

theorem cells_popBack (popped : l.popBack = .ok (key, l')) : l'.cells = l.cells := by
  unfold popBack at popped
  split at popped
  · cases popped
    rfl
  · exact cells_remove popped

theorem cells_attachFront (l : Recency K) (slot : Slot) : (l.attachFront slot).cells = l.cells := by
  unfold attachFront
  split
  · exact (cells_lead _ slot).trans (Arena.cells_modify slot _)
  · rfl

theorem cells_moveToFront (l : Recency K) (slot : Slot) :
    (l.moveToFront slot).2.cells = l.cells := by
  unfold moveToFront
  split
  · rfl
  · split
    · rfl
    · split
      · rfl
      · rename_i rest detached
        exact (cells_attachFront rest slot).trans (cells_detach detached)

/-- A push takes a cell that is free, and makes a new one only where all are taken. -/
theorem Holds.cells_pushFront (holds : l.Holds places) {key : K}
    (pushed : l.pushFront key = .ok (slot, l')) :
    l'.cells = max l.cells (places.length + 1) := by
  obtain ⟨⟨slot, nodes⟩, inserted, same⟩ := eq_ok_of_bind pushed
  cases same
  have added := (holds.nodes.insert _).of_ok inserted
  rw [cells_lead, added.cells, added.size, holds.size, cells]

end Recency

end CacheAside
