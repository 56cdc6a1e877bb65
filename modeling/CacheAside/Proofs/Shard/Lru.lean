import Mathlib.Tactic.SplitIfs
import CacheAside.Shard.Op

namespace CacheAside

abbrev Lru (K V : Type) := List (K × V)

namespace Lru

variable {K V : Type} [BEq K]

def pair? (l : Lru K V) (key : K) : Option (K × V) := l.find? fun entry => entry.1 == key

def without (l : Lru K V) (key : K) : Lru K V := l.eraseP fun entry => entry.1 == key

def insert (l : Lru K V) (capacity : Nat) (key : K) (value : V) : Option V × Lru K V :=
  match l.pair? key with
  | some (held, old) => (some old, (held, value) :: l.without key)
  | none =>
    if capacity = 0 then
      (none, l)
    else if l.length = capacity then
      (none, (key, value) :: l.dropLast)
    else
      (none, (key, value) :: l)

def get (l : Lru K V) (key : K) : Option V × Lru K V :=
  match l.pair? key with
  | some entry => (some entry.2, entry :: l.without key)
  | none => (none, l)

def peek (l : Lru K V) (key : K) : Option V := (l.pair? key).map Prod.snd

def remove (l : Lru K V) (key : K) : Option V × Lru K V := (l.peek key, l.without key)

def popOldest (l : Lru K V) : Option (K × V) × Lru K V := (l.getLast?, l.dropLast)

def rank (l : Lru K V) (key : K) : Option Nat := l.findIdx? fun entry => entry.1 == key

def contains (l : Lru K V) (key : K) : Bool := l.any fun entry => entry.1 == key

def step (l : Lru K V) (capacity : Nat) : Shard.Op K V → Option (Shard.Answer K V) × Lru K V
  | .insert key value =>
    (some (.value (l.insert capacity key value).1), (l.insert capacity key value).2)
  | .get key => (some (.value (l.get key).1), (l.get key).2)
  | .peek key => (some (.value (l.peek key)), l)
  | .remove key => (some (.value (l.remove key).1), (l.remove key).2)
  | .popOldest => (some (.entry l.popOldest.1), l.popOldest.2)
  | .peekOldest => (some (.entry l.getLast?), l)
  | .rank key => (some (.rank (l.rank key)), l)
  | .contains key => (some (.flag (l.contains key)), l)
  | .clear => (some .done, [])
  | .metrics | .hitRatio | .describe => (none, l)

def run (capacity : Nat) (l : Lru K V) :
    List (Shard.Op K V) → List (Option (Shard.Answer K V) × Lru K V)
  | [] => []
  | op :: ops => l.step capacity op :: run capacity (l.step capacity op).2 ops

def evictions (l : Lru K V) (capacity : Nat) : List CacheEvent :=
  if l.length = capacity then [.eviction] else []

def events (l : Lru K V) (capacity : Nat) : Shard.Op K V → List CacheEvent
  | .insert key _ =>
    if (l.pair? key).isSome then [.insertUpdate]
    else if capacity = 0 then []
    else l.evictions capacity ++ [.insertNew]
  | .get key => if (l.pair? key).isSome then [.getHit] else [.getMiss]
  | .remove key => if (l.pair? key).isSome then [.removal] else []
  | .clear => [.clearing]
  | _ => []

def Distinct (l : Lru K V) : Prop := l.Pairwise fun a b => (a.1 == b.1) = false

theorem count_events_le_one (l : Lru K V) (capacity : Nat) (op : Shard.Op K V)
    (event : CacheEvent) : (l.events capacity op).count event ≤ 1 := by
  have nodup : (l.events capacity op).Nodup := by
    cases op with
    | insert key value => simp only [events, evictions]; split_ifs <;> decide
    | get key => simp only [events]; split_ifs <;> decide
    | remove key => simp only [events]; split_ifs <;> decide
    | clear => exact (by decide : [CacheEvent.clearing].Nodup)
    | _ => exact List.nodup_nil
  exact List.nodup_iff_count.mp nodup event

variable {l front back : Lru K V} {entry : K × V} {key : K}

theorem pair?_eq_some (found : l.pair? key = some entry) :
    (entry.1 == key) = true ∧ ∃ front back, l = front ++ entry :: back ∧
      l.without key = front ++ back := by
  obtain ⟨same, front, back, shape, before⟩ := List.find?_eq_some_iff_append.mp found
  refine ⟨same, front, back, shape, ?_⟩
  have absent : ∀ e ∈ front, ¬ (e.1 == key) = true := by
    intro e member
    simpa using before e member
  rw [without, shape, List.eraseP_append_right _ absent, List.eraseP_cons_of_pos (by exact same)]

theorem length_without (found : l.pair? key = some entry) :
    (l.without key).length + 1 = l.length := by
  obtain ⟨_, front, back, shape, rest⟩ := pair?_eq_some found
  rw [rest, shape]
  simp only [List.length_append, List.length_cons]
  omega

theorem pair?_cons (entry : K × V) (l : Lru K V) (key : K) :
    pair? (entry :: l) key = if entry.1 == key then some entry else l.pair? key := by
  rw [pair?, List.find?_cons]
  cases entry.1 == key <;> rfl

theorem pair?_eq_none : l.pair? key = none ↔ ∀ e ∈ l, (e.1 == key) = false := by
  simp [pair?]

theorem Distinct.without (distinct : l.Distinct) (key : K) : (l.without key).Distinct :=
  List.Pairwise.sublist List.eraseP_sublist distinct

theorem Distinct.ahead (distinct : Distinct (front ++ entry :: back)) :
    ∀ e ∈ front, (e.1 == entry.1) = false :=
  fun e member => (List.pairwise_append.mp distinct).2.2 e member entry List.mem_cons_self

variable [EquivBEq K]

theorem pair?_congr {key' : K} (same : (key == key') = true) : l.pair? key = l.pair? key' := by
  have keys : (fun e : K × V => e.1 == key) = fun e => e.1 == key' :=
    funext fun e => BEq.congr_right same
  rw [pair?, pair?, keys]

theorem pair?_without_of_ne {key' : K} (other : (key == key') = false) :
    (l.without key).pair? key' = l.pair? key' := by
  induction l with
  | nil => rfl
  | cons e l ih =>
    cases here : e.1 == key with
    | true =>
      have passed : (e.1 == key') = false := (BEq.congr_left here).trans other
      simp [without, pair?, here, passed]
    | false =>
      rw [without, List.eraseP_cons_of_neg (by simp [here])]
      simp only [pair?, List.find?_cons] at ih ⊢
      split
      · rfl
      · exact ih

theorem Distinct.behind (distinct : Distinct (front ++ entry :: back)) :
    ∀ e ∈ back, (e.1 == entry.1) = false := by
  intro e member
  rw [BEq.comm]
  exact (List.pairwise_cons.mp (List.pairwise_append.mp distinct).2.1).1 e member

theorem Distinct.pair?_without (distinct : l.Distinct) (key : K) :
    (l.without key).pair? key = none := by
  cases found : l.pair? key with
  | none =>
    have absent := pair?_eq_none.mp found
    rw [Lru.without, List.eraseP_of_forall_not fun e member => by simp [absent e member]]
    exact found
  | some entry =>
    obtain ⟨same, front, back, shape, rest⟩ := pair?_eq_some found
    subst shape
    rw [rest, pair?_congr (BEq.symm same), pair?_eq_none]
    intro e member
    rcases List.mem_append.mp member with member | member
    · exact distinct.ahead e member
    · exact distinct.behind e member

theorem Distinct.pair?_self (distinct : Distinct (front ++ entry :: back)) :
    Lru.pair? (front ++ entry :: back) entry.1 = some entry := by
  have absent : List.find? (fun e : K × V => e.1 == entry.1) front = none := by
    simpa using distinct.ahead
  rw [Lru.pair?, List.find?_append, absent]
  simp

theorem Distinct.pair?_last (distinct : Distinct (front ++ [entry])) :
    Lru.pair? (front ++ [entry]) entry.1 = some entry := distinct.pair?_self

theorem Distinct.without_last (distinct : Distinct (front ++ [entry])) :
    Lru.without (front ++ [entry]) entry.1 = front := by
  have absent : ∀ e ∈ front, ¬ (e.1 == entry.1) = true := by
    intro e member
    simp [distinct.ahead e member]
  rw [Lru.without, List.eraseP_append_right _ absent, List.eraseP_cons_of_pos (by simp),
    List.append_nil]

theorem Distinct.toFront (distinct : l.Distinct) (found : l.pair? key = some entry)
    {value : V} : Distinct ((entry.1, value) :: l.without key) := by
  refine List.pairwise_cons.mpr ⟨?_, distinct.without key⟩
  intro e member
  have absent := pair?_eq_none.mp (distinct.pair?_without key) e member
  rw [BEq.comm]
  exact (BEq.congr_right (pair?_eq_some found).1).trans absent

theorem pair?_toFront (found : l.pair? key = some entry) (value : V) (key' : K) :
    pair? ((entry.1, value) :: l.without key) key' =
      if key == key' then some (entry.1, value) else l.pair? key' := by
  have same : (entry.1 == key') = (key == key') := BEq.congr_left (pair?_eq_some found).1
  cases other : key == key' with
  | true => simp [pair?, same, other]
  | false =>
    rw [other] at same
    simpa [pair?, same] using pair?_without_of_ne other

end Lru

end CacheAside
