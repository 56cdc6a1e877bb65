import Mathlib.Data.List.Basic
import CacheAside.Proofs.Arena.FreeCells
import CacheAside.Recency.Basic

namespace CacheAside.Recency

variable {K : Type}

def first : List (Slot × K) → Option Slot → Option Slot
  | [], older => older
  | (slot, _) :: _, _ => some slot

def last (newer : Option Slot) : List (Slot × K) → Option Slot
  | [] => newer
  | (slot, _) :: places => last (some slot) places

/-- The nodes of a stretch of places, each linked to both of its neighbours; `newer` and `older`
    are the neighbours of the whole stretch. -/
def Chain (nodes : Arena (Node K)) (newer : Option Slot) :
    List (Slot × K) → Option Slot → Prop
  | [], _ => True
  | (slot, key) :: places, older =>
    nodes.get? slot = some ⟨key, newer, first places older⟩ ∧
      Chain nodes (some slot) places older

def slots (places : List (Slot × K)) : List Slot := places.map Prod.fst

variable {nodes nodes' : Arena (Node K)} {newer older : Option Slot}

@[simp] theorem slots_nil : slots ([] : List (Slot × K)) = [] := rfl

@[simp] theorem slots_cons (place : Slot × K) (places : List (Slot × K)) :
    slots (place :: places) = place.1 :: slots places := rfl

@[simp] theorem slots_append (front back : List (Slot × K)) :
    slots (front ++ back) = slots front ++ slots back := List.map_append

theorem first_append (front back : List (Slot × K)) :
    first (front ++ back) older = first front (first back older) := by
  cases front <;> rfl

theorem last_append (front back : List (Slot × K)) :
    last newer (front ++ back) = last (last newer front) back := by
  induction front generalizing newer with
  | nil => rfl
  | cons place front ih => exact ih

theorem first_eq_head? {places : List (Slot × K)} :
    first places none = places.head?.map Prod.fst := by
  cases places <;> rfl

theorem last_eq_getLast? {places : List (Slot × K)} :
    last none places = places.getLast?.map Prod.fst := by
  rcases List.eq_nil_or_concat' places with rfl | ⟨front, place, rfl⟩
  · rfl
  · rw [last_append, List.getLast?_concat]
    rfl

theorem first_eq_none {places : List (Slot × K)} : first places none = none ↔ places = [] := by
  cases places <;> simp [first]

theorem mem_slots_of_first {places : List (Slot × K)} {slot : Slot}
    (head : first places none = some slot) : slot ∈ slots places := by
  cases places with
  | nil => cases head
  | cons place places =>
    cases head
    exact List.mem_cons_self

theorem mem_slots_of_last {places : List (Slot × K)} {slot : Slot}
    (tail : last newer places = some slot) : newer = some slot ∨ slot ∈ slots places := by
  induction places generalizing newer with
  | nil => exact .inl tail
  | cons place places ih =>
    rcases ih tail with same | member
    · cases same
      exact .inr List.mem_cons_self
    · exact .inr (List.mem_cons_of_mem _ member)

theorem last_eq_none {places : List (Slot × K)} :
    last newer places = none ↔ newer = none ∧ places = [] := by
  induction places generalizing newer with
  | nil => simp [last]
  | cons place places ih => simp [last, ih]

theorem chain_append (front back : List (Slot × K)) :
    Chain nodes newer (front ++ back) older ↔
      Chain nodes newer front (first back older) ∧
        Chain nodes (last newer front) back older := by
  induction front generalizing newer with
  | nil => simp [Chain, last]
  | cons place front ih =>
    simp only [List.cons_append, Chain, first_append, ih, and_assoc, last]

/-- Only the cells of its own slots matter to a chain. -/
theorem Chain.congr {places : List (Slot × K)} (chain : Chain nodes newer places older)
    (same : ∀ slot ∈ slots places, nodes'.get? slot = nodes.get? slot) :
    Chain nodes' newer places older := by
  induction places generalizing newer with
  | nil => exact True.intro
  | cons place places ih =>
    refine ⟨?_, ih chain.2 fun slot member => same slot (List.mem_cons_of_mem _ member)⟩
    rw [same place.1 List.mem_cons_self]
    exact chain.1

theorem Chain.get? {places : List (Slot × K)} (chain : Chain nodes newer places older)
    {place : Slot × K} (member : place ∈ places) :
    ∃ node, nodes.get? place.1 = some node ∧ node.key = place.2 := by
  induction places generalizing newer with
  | nil => cases member
  | cons head places ih =>
    rcases List.mem_cons.mp member with rfl | member
    · exact ⟨_, chain.1, rfl⟩
    · exact ih chain.2 member

theorem get?_setNewer (place newer : Option Slot) (slot : Slot) :
    (setNewer nodes place newer).get? slot =
      if place = some slot then (nodes.get? slot).map fun node => { node with newer }
      else nodes.get? slot := by
  cases place with
  | none => rfl
  | some other =>
    simp only [setNewer, Arena.get?_modify, Option.some.injEq, eq_comm]

theorem get?_setOlder (place older : Option Slot) (slot : Slot) :
    (setOlder nodes place older).get? slot =
      if place = some slot then (nodes.get? slot).map fun node => { node with older }
      else nodes.get? slot := by
  cases place with
  | none => rfl
  | some other =>
    simp only [setOlder, Arena.get?_modify, Option.some.injEq, eq_comm]

theorem setNewer_wellFormed (wf : nodes.WellFormed) (place newer : Option Slot) :
    (setNewer nodes place newer).WellFormed := by
  cases place with
  | none => exact wf
  | some slot => exact wf.modify slot _

theorem setOlder_wellFormed (wf : nodes.WellFormed) (place older : Option Slot) :
    (setOlder nodes place older).WellFormed := by
  cases place with
  | none => exact wf
  | some slot => exact wf.modify slot _

@[simp] theorem size_setNewer (place newer : Option Slot) :
    (setNewer nodes place newer).size = nodes.size := by
  cases place <;> rfl

@[simp] theorem size_setOlder (place older : Option Slot) :
    (setOlder nodes place older).size = nodes.size := by
  cases place <;> rfl

@[simp] theorem isSome_get?_setNewer (place newer : Option Slot) (slot : Slot) :
    ((setNewer nodes place newer).get? slot).isSome = (nodes.get? slot).isSome := by
  rw [get?_setNewer]
  split <;> simp

@[simp] theorem isSome_get?_setOlder (place older : Option Slot) (slot : Slot) :
    ((setOlder nodes place older).get? slot).isSome = (nodes.get? slot).isSome := by
  rw [get?_setOlder]
  split <;> simp

theorem Chain.setNewer {places : List (Slot × K)} (chain : Chain nodes newer places older)
    (distinct : (slots places).Nodup) (newer' : Option Slot) :
    Chain (Recency.setNewer nodes (first places none) newer') newer' places older := by
  cases places with
  | nil => exact True.intro
  | cons place places =>
    obtain ⟨fresh, distinct⟩ := List.nodup_cons.mp distinct
    refine ⟨?_, chain.2.congr ?_⟩
    · rw [get?_setNewer, if_pos (by rfl), chain.1]
      rfl
    · intro slot member
      rw [get?_setNewer, if_neg]
      intro same
      cases same
      exact fresh member

theorem Chain.setOlder {places : List (Slot × K)} (chain : Chain nodes newer places older)
    (distinct : (slots places).Nodup) (older' : Option Slot) :
    Chain (Recency.setOlder nodes (last newer places) older') newer places older' := by
  induction places generalizing newer with
  | nil => exact True.intro
  | cons place places ih =>
    obtain ⟨fresh, distinct⟩ := List.nodup_cons.mp distinct
    refine ⟨?_, ih chain.2 distinct⟩
    · rw [get?_setOlder]
      cases places with
      | nil => simp [last, first, chain.1]
      | cons next places =>
        rw [if_neg, chain.1]
        · rfl
        · intro same
          rcases mem_slots_of_last (show last (some next.1) places = some place.1 from same) with
            same | member
          · exact fresh (Option.some.inj same ▸ List.mem_cons_self)
          · exact fresh (List.mem_cons_of_mem _ member)

end CacheAside.Recency
