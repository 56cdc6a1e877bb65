import Mathlib.Order.Bounds.Basic
import CacheAside.Arena.Op
import CacheAside.Proofs.Arena.FreeCells
import CacheAside.Proofs.Finmap
import CacheAside.Proofs.Replay

namespace CacheAside.Arena

/-- Which slots are occupied and by what, with the lengths there have been since the arena was made
    or last cleared, the present one first. -/
structure Occupancy (α : Type) where
  places : Finmap fun _ : Slot => α
  lengths : List Nat

namespace Occupancy

variable {α : Type}

def length (o : Occupancy α) : Nat := o.places.keys.card

def vacant : Occupancy α := ⟨∅, [0]⟩

def become (o : Occupancy α) (places : Finmap fun _ : Slot => α) : Occupancy α :=
  ⟨places, places.keys.card :: o.lengths⟩

/-- What an operation makes of the occupied slots, and what it answers. A handle whose slot is not
    occupied names nothing, whether it is stale or was never issued. -/
inductive Acts : Occupancy α → Op α → Answer α → Occupancy α → Prop where
  | inserted {o : Occupancy α} {slot : Slot} {value : α} (fresh : slot ∉ o.places) :
      Acts o (.insert value) (.issued slot) (o.become (o.places.insert slot value))
  | removed {o : Occupancy α} {slot : Slot} {value : α} (held : o.places.lookup slot = some value) :
      Acts o (.remove slot) (.value (some value)) (o.become (o.places.erase slot))
  | absent {o : Occupancy α} {slot : Slot} (outside : slot ∉ o.places) :
      Acts o (.remove slot) (.value none) o
  | written {o : Occupancy α} {slot : Slot} {old value : α}
      (held : o.places.lookup slot = some old) :
      Acts o (.set slot value) (.value (some old)) (o.become (o.places.insert slot value))
  | unwritten {o : Occupancy α} {slot : Slot} {value : α} (outside : slot ∉ o.places) :
      Acts o (.set slot value) (.value none) o
  | got {o : Occupancy α} {slot : Slot} : Acts o (.get slot) (.value (o.places.lookup slot)) o
  | asked {o : Occupancy α} {slot : Slot} : Acts o (.contains slot) (.flag (slot ∈ o.places)) o
  | cleared {o : Occupancy α} : Acts o .clear .done vacant

def Quiet (op : Op α) (answer : Answer α) : Prop :=
  answer = .value none ∨ ∃ slot, op = .get slot ∨ op = .contains slot

end Occupancy

open Occupancy

variable {α : Type}

/-- An arena shows these places and no others. Its free list is their complement among the cells,
    and there are as many cells as the arena has ever been long. -/
structure Shows (a : Arena α) (o : Occupancy α) : Prop where
  get? : ∀ slot, a.get? slot = o.places.lookup slot
  contains : ∀ slot, a.contains slot = decide (slot ∈ o.places)
  within : ∀ slot ∈ o.places, slot.index < a.cells.size
  free_nodup : a.free.Nodup
  mem_free : ∀ index, index ∈ a.free ↔ index < a.cells.size ∧ ⟨index⟩ ∉ o.places
  size : a.size = o.length
  isEmpty : a.isEmpty = decide (o.length = 0)
  highWater : IsGreatest {n | n ∈ o.lengths} a.cells.size

/-- A run of an arena along with its occupied slots: each operation returns, acts on the places and
    answers as it acts on a finite map, and the arena shows what has become of them. One that only
    looked, or that found nothing, leaves every cell as it is, and the free list too. -/
inductive Follows : Arena α → Occupancy α → List (Op α) → List (Answer α) →
    Arena α → Occupancy α → Prop where
  | nil {a : Arena α} {o : Occupancy α} : Follows a o [] [] a o
  | cons {a a' last : Arena α} {o o' rest : Occupancy α} {op : Op α} {answer : Answer α}
      {ops : List (Op α)} {answers : List (Answer α)} (stepped : a.step op = .ok (answer, a'))
      (acts : Acts o op answer o') (quiet : Quiet op answer → a' = a) (shows' : a'.Shows o')
      (follows : Follows a' o' ops answers last rest) :
      Follows a o (op :: ops) (answer :: answers) last rest

structure Holds (a : Arena α) (o : Occupancy α) : Prop where
  wellFormed : a.WellFormed
  get? : ∀ slot, a.get? slot = o.places.lookup slot
  size : a.size = o.length
  highWater : IsGreatest {n | n ∈ o.lengths} a.cells.size

variable {a a' : Arena α} {o o' : Occupancy α} {slot : Slot} {value old : α} {op : Op α}
  {answer : Answer α}

theorem Holds.empty : (Arena.empty : Arena α).Holds vacant :=
  ⟨.empty, fun _ => rfl, rfl, by simp [IsGreatest, upperBounds, Arena.empty, vacant]⟩

theorem Holds.contains (holds : a.Holds o) (slot : Slot) :
    a.contains slot = decide (slot ∈ o.places) := by
  rw [Arena.contains, holds.get?, Bool.eq_iff_iff, Finmap.lookup_isSome, decide_eq_true_iff]

theorem Holds.shows (holds : a.Holds o) : a.Shows o where
  get? := holds.get?
  contains := holds.contains
  within := by
    intro slot member
    obtain ⟨value, held⟩ := Finmap.mem_iff.mp member
    exact lt_of_getElem? (get?_eq_some.mp ((holds.get? slot).trans held))
  free_nodup := holds.wellFormed.free_nodup
  mem_free := by
    intro index
    rw [holds.wellFormed.mem_free, ← Finmap.lookup_eq_none, ← holds.get?, Arena.get?]
    constructor
    · intro empty
      exact ⟨lt_of_getElem? empty, by simp [empty]⟩
    · rintro ⟨bound, vacant⟩
      simpa [Array.getElem?_eq_getElem bound] using vacant
  size := holds.size
  isEmpty := by rw [Arena.isEmpty, holds.size]; rfl
  highWater := holds.highWater

/-- A greatest length stays one with a further length at its side, if the larger of them counts. -/
theorem isGreatest_cons {lengths : List Nat} {greatest : Nat}
    (before : IsGreatest {n | n ∈ lengths} greatest) (length : Nat) :
    IsGreatest {n | n ∈ length :: lengths} (max greatest length) := by
  have whole : {n | n ∈ length :: lengths} = Insert.insert length {n | n ∈ lengths} := by
    ext n
    simp
  rw [whole, max_comm]
  exact before.insert length

theorem Holds.inserted (holds : a.Holds o) (inserted : a.Inserted value slot a') :
    slot ∉ o.places ∧ a'.Holds (o.become (o.places.insert slot value)) := by
  have fresh : slot ∉ o.places := by
    rw [← Finmap.lookup_eq_none, ← holds.get?]
    exact inserted.vacant
  have length : a'.size = (o.places.insert slot value).keys.card := by
    rw [Finmap.card_keys_insert fresh, inserted.size, holds.size]
    rfl
  refine ⟨fresh, inserted.wellFormed, ?_, length, ?_⟩
  · intro s
    rw [inserted.get?]
    by_cases same : s = slot
    · subst same
      rw [if_pos rfl]
      exact o.places.lookup_insert.symm
    · rw [if_neg same, holds.get?]
      exact (o.places.lookup_insert_of_ne same).symm
  · rw [inserted.cells, length]
    exact isGreatest_cons holds.highWater _

theorem Holds.removed (holds : a.Holds o) (held : o.places.lookup slot = some value)
    (removed : a.Removed slot a') : a'.Holds (o.become (o.places.erase slot)) := by
  have length : a'.size = (o.places.erase slot).keys.card := by
    have fewer := Finmap.card_keys_erase (Finmap.mem_of_lookup_eq_some held)
    have size := holds.size
    have size' := removed.size
    rw [Occupancy.length] at size
    omega
  refine ⟨removed.wellFormed, ?_, length, ?_⟩
  · intro s
    rw [removed.get?]
    by_cases same : s = slot
    · subst same
      rw [if_pos rfl]
      exact (Finmap.lookup_erase s o.places).symm
    · rw [if_neg same, holds.get?]
      exact (Finmap.lookup_erase_ne same).symm
  · have shorter : (o.places.erase slot).keys.card ≤ a.cells.size := by
      have counted := removed.wellFormed.size_add_free
      rw [removed.cells] at counted
      omega
    rw [removed.cells, ← max_eq_left shorter]
    exact isGreatest_cons holds.highWater _

theorem Holds.written (holds : a.Holds o) (held : o.places.lookup slot = some old) :
    (a.modify slot fun _ => value).Holds (o.become (o.places.insert slot value)) := by
  have length : a.size = (o.places.insert slot value).keys.card := by
    rw [Finmap.card_keys_replace (Finmap.mem_of_lookup_eq_some held), holds.size]
    rfl
  refine ⟨holds.wellFormed.modify slot _, ?_, length, ?_⟩
  · intro s
    rw [get?_modify, holds.get?]
    by_cases same : s = slot
    · subst same
      rw [if_pos rfl, held]
      exact o.places.lookup_insert.symm
    · rw [if_neg same]
      exact (o.places.lookup_insert_of_ne same).symm
  · have shorter : (o.places.insert slot value).keys.card ≤ a.cells.size := by
      have counted := holds.wellFormed.size_add_free
      omega
    rw [modify, Array.size_modify, ← max_eq_left shorter]
    exact isGreatest_cons holds.highWater _

theorem modify_of_vacant (vacant : a.get? slot = none) (f : α → α) : a.modify slot f = a := by
  obtain ⟨cells, free, size⟩ := a
  simp only [modify, mk.injEq, and_true]
  refine Array.ext_getElem? fun i => ?_
  rw [Array.getElem?_modify]
  split
  · subst_vars
    cases cell : cells[slot.index]? with
    | none => rfl
    | some held =>
      obtain rfl : held = none := by simpa [get?, cell] using vacant
      rfl
  · rfl

theorem Holds.step (holds : a.Holds o) (op : Op α) :
    Yields (Word.bound ≤ o.length + 1)
      (fun (answer, a') => ∃ o', Acts o op answer o' ∧ (Quiet op answer → a' = a) ∧ a'.Holds o')
      (a.step op) := by
  have nothing (slot : Slot) (outside : slot ∉ o.places) : a.get? slot = none :=
    (holds.get? slot).trans (Finmap.lookup_eq_none.mpr outside)
  cases op with
  | insert value =>
    refine ((holds.wellFormed.insert value).mono (fun full => ?_) fun _ done => done).bind ?_
    · rwa [holds.size] at full
    · rintro ⟨slot, a'⟩ inserted
      obtain ⟨fresh, after⟩ := holds.inserted inserted
      exact ⟨_, .inserted fresh, nofun, after⟩
  | remove slot =>
    by_cases member : slot ∈ o.places
    · obtain ⟨value, held⟩ := Finmap.mem_iff.mp member
      obtain ⟨a', done, removed⟩ := holds.wellFormed.remove ((holds.get? slot).trans held)
      simp only [Arena.step, done]
      exact ⟨_, .removed held, nofun, holds.removed held removed⟩
    · simp only [Arena.step, remove_of_vacant (nothing slot member)]
      exact ⟨o, .absent member, fun _ => rfl, holds⟩
  | get slot =>
    simp only [Arena.step, holds.get? slot]
    exact ⟨o, .got, fun _ => rfl, holds⟩
  | set slot value =>
    by_cases member : slot ∈ o.places
    · obtain ⟨old, held⟩ := Finmap.mem_iff.mp member
      simp only [Arena.step, replace, (holds.get? slot).trans held]
      exact ⟨_, .written held, nofun, holds.written held⟩
    · simp only [Arena.step, replace, nothing slot member, modify_of_vacant (nothing slot member)]
      exact ⟨o, .unwritten member, fun _ => rfl, holds⟩
  | contains slot =>
    simp only [Arena.step, holds.contains slot]
    exact ⟨o, .asked, fun _ => rfl, holds⟩
  | clear => exact ⟨_, .cleared, nofun, .empty⟩

/-- An insertion alone makes an arena longer, by one. -/
theorem Occupancy.Acts.length_le (acts : Acts o op answer o') : o'.length ≤ o.length + 1 := by
  cases acts with
  | inserted | written =>
    rw [Occupancy.length, become, Finmap.keys_insert]
    exact Finset.card_insert_le _ _
  | removed =>
    rw [Occupancy.length, become, Finmap.keys_erase]
    exact Finset.card_erase_le.trans (Nat.le_add_right _ 1)
  | absent | unwritten | got | asked => exact Nat.le_add_right _ 1
  | cleared => exact Nat.zero_le _

/-- No run is long enough to fill a word with values, since each operation adds one at most. -/
theorem Holds.run {ops : List (Op α)} (holds : a.Holds o)
    (room : o.length + ops.length < Word.bound) :
    ∃ answers last rest, replay Arena.step a ops = .ok (answers, last) ∧
      Follows a o ops answers last rest ∧ last.Holds rest := by
  induction ops generalizing a o with
  | nil => exact ⟨[], a, o, rfl, .nil, holds⟩
  | cons op ops ih =>
    rw [List.length_cons] at room
    obtain ⟨⟨answer, a'⟩, stepped, o', acts, quiet, after⟩ := (holds.step op).returns (by omega)
    have longer := acts.length_le
    obtain ⟨answers, last, rest, ran, follows, holds'⟩ := ih after (by omega)
    exact ⟨answer :: answers, last, rest, replay_cons stepped ran,
      .cons stepped acts quiet after.shows follows, holds'⟩

/-- An arena is a finite map from slots to values, whatever handles it is given: every run of
    operations returns and follows that of the map. It makes no cell without need: there are as
    many as there were values at the fullest moment since the last clearing, and the free list
    names each one without a value once. -/
theorem run_follows_map (ops : List (Op α)) (short : ops.length < Word.bound) :
    ∃ answers last o, replay Arena.step (Arena.empty : Arena α) ops = .ok (answers, last) ∧
      Follows Arena.empty .vacant ops answers last o ∧ last.Shows o := by
  have start : Occupancy.length (.vacant : Occupancy α) = 0 := rfl
  obtain ⟨answers, last, o, ran, follows, holds⟩ :=
    Holds.empty.run (show Occupancy.length .vacant + ops.length < Word.bound by omega)
  exact ⟨answers, last, o, ran, follows, holds.shows⟩

def reusing : List (Op Nat) :=
  [.insert 10, .insert 20, .insert 30, .remove ⟨1⟩, .remove ⟨1⟩, .set ⟨1⟩ 21, .remove ⟨0⟩,
    .insert 40, .get ⟨1⟩, .insert 50, .set ⟨1⟩ 51, .remove ⟨7⟩, .contains ⟨2⟩, .clear, .get ⟨2⟩,
    .insert 60]

theorem reusing_follows_map :
    reusing.length < Word.bound ∧
      ∃ o, replay Arena.step Arena.empty reusing = .ok ([.issued ⟨0⟩, .issued ⟨1⟩, .issued ⟨2⟩,
          .value (some 20), .value none, .value none, .value (some 10), .issued ⟨0⟩, .value none,
          .issued ⟨1⟩, .value (some 50), .value none, .flag true, .done, .value none,
          .issued ⟨0⟩], ⟨#[some 60], [], 1⟩) ∧
        Follows Arena.empty .vacant reusing [.issued ⟨0⟩, .issued ⟨1⟩, .issued ⟨2⟩,
          .value (some 20), .value none, .value none, .value (some 10), .issued ⟨0⟩, .value none,
          .issued ⟨1⟩, .value (some 50), .value none, .flag true, .done, .value none,
          .issued ⟨0⟩] ⟨#[some 60], [], 1⟩ o ∧
        Shows ⟨#[some 60], [], 1⟩ o := by
  have short : reusing.length < Word.bound := by decide
  obtain ⟨answers, last, o, ran, follows, shows'⟩ := run_follows_map reusing short
  have computed : replay Arena.step Arena.empty reusing = .ok ([.issued ⟨0⟩, .issued ⟨1⟩,
      .issued ⟨2⟩, .value (some 20), .value none, .value none, .value (some 10), .issued ⟨0⟩,
      .value none, .issued ⟨1⟩, .value (some 50), .value none, .flag true, .done, .value none,
      .issued ⟨0⟩], ⟨#[some 60], [], 1⟩) := rfl
  cases ran.symm.trans computed
  exact ⟨short, o, ran, follows, shows'⟩

end CacheAside.Arena
