import CacheAside.Proofs.Cache.Interface
import CacheAside.Proofs.Shard.Contents
import CacheAside.Proofs.Shard.Refinement

namespace CacheAside

def CacheEvent.all : List CacheEvent :=
  [.getHit, .getMiss, .insertNew, .insertUpdate, .eviction, .removal, .clearing]

theorem CacheEvent.count_all (event : CacheEvent) : CacheEvent.all.count event = 1 := by
  cases event <;> rfl

theorem CacheEvent.subset_all (kinds : List CacheEvent) : kinds ⊆ CacheEvent.all :=
  fun event _ => List.count_pos_iff.mp (by rw [count_all]; exact Nat.one_pos)

def Cache.Op.onEntries {K V : Type} : Cache.Op K V → Bool
  | .put .. | .get _ | .remove _ | .contains _ | .peek _ | .clear => true
  | _ => false

def Cache.Op.asked? {K V : Type} : Cache.Op K V → Option (Shard.Op K V)
  | .put key value => some (.insert key value)
  | .get key => some (.get key)
  | .remove key => some (.remove key)
  | .contains key => some (.contains key)
  | .peek key => some (.peek key)
  | .clear => some .clear
  | _ => none

def Cache.Op.reply {K V : Type} : Cache.Op K V → Shard.Answer K V → Cache.Answer V
  | .get _, .value value | .peek _, .value value => .value value
  | .remove _, .value value => .flag value.isSome
  | .contains _, .flag flag => .flag flag
  | _, _ => .done

def Lru.serve {K V : Type} [BEq K] (l : Lru K V) (capacity : Nat) :
    Cache.Op K V → Cache.Answer V × Lru K V
  | .put key value => (.done, (l.insert capacity key value).2)
  | .get key => (.value (l.get key).1, (l.get key).2)
  | .remove key => (.flag (l.remove key).1.isSome, (l.remove key).2)
  | .contains key => (.flag (l.contains key), l)
  | .peek key => (.value (l.peek key), l)
  | .clear => (.done, [])
  | _ => (.unsupported, l)

theorem Cache.Op.asked_of_entries {K V : Type} {op : Cache.Op K V} (entries : op.onEntries = true) :
    ∃ ask, op.asked? = some ask ∧ ask.onEntries = true := by
  cases op with
  | put | get | remove | contains | peek | clear => exact ⟨_, rfl, rfl⟩
  | len | metrics | hitRatio | describe | policy | shardCount | shardCapacities | shardIndex =>
    cases entries

theorem Lru.serve_of_asked {K V : Type} [BEq K] {op : Cache.Op K V} {ask : Shard.Op K V}
    (asked : op.asked? = some ask) (l : Lru K V) (capacity : Nat) :
    ∃ answer, (l.step capacity ask).1 = some answer ∧
      l.serve capacity op = (op.reply answer, (l.step capacity ask).2) := by
  cases op <;> cases asked <;> exact ⟨_, rfl, rfl⟩

namespace Shard

variable {K V : Type} [BEq K] [Hashable K] {s s' : Shard K V} {l l' : Lru K V}

theorem interface_step {op : Cache.Op K V} {ask : Op K V} (asked : op.asked? = some ask)
    (s : Shard K V) :
    interface.step s op = (do
      let (answer, s) ← s.step ask
      return (op.reply answer, s)) := by
  cases op with
  | put | get | remove | clear =>
    cases asked
    simp [Interface.step, interface, step, Cache.Op.reply]
  | contains | peek =>
    cases asked
    rfl
  | len | metrics | hitRatio | describe | policy | shardCount | shardCapacities | shardIndex =>
    cases asked

structure Serves (s : Shard K V) (l : Lru K V) (s' : Shard K V) : Prop where
  models : s'.Models l
  capacity : s'.capacity = s.capacity
  counted : ∀ event, s'.events.count event ≤ s.events.count event + 1

theorem Reaches.serves {op : Op K V} (reached : s.Reaches l' (l.events s.capacity op) s') :
    s.Serves l' s' := by
  refine ⟨reached.models, reached.capacity, ?_⟩
  intro event
  have once := Lru.count_events_le_one l s.capacity op event
  rw [reached.events, CacheEvents.count_tallyAll]
  omega

variable [EquivBEq K] [LawfulHashable K]

/-- A shard that serves the operations of a cache does what the ideal list does. -/
theorem Models.serve (m : s.Models l) {op : Cache.Op K V} (entries : op.onEntries = true) :
    Yields (s.events.Full CacheEvent.all)
      (fun (answer, s') => answer = (l.serve s.capacity op).1 ∧
        s.Serves (l.serve s.capacity op).2 s') (interface.step s op) := by
  obtain ⟨ask, asked, askEntries⟩ := Cache.Op.asked_of_entries entries
  obtain ⟨ideal, answered, served⟩ := Lru.serve_of_asked asked l s.capacity
  rw [interface_step asked, served]
  refine ((m.step ask askEntries).mono (fun full => full.mono (CacheEvent.subset_all _))
    fun _ holds => holds).bind ?_
  rintro ⟨answer, s'⟩ ⟨same, reached⟩
  obtain rfl : ideal = answer := Option.some.inj (answered.symm.trans same)
  exact ⟨rfl, reached.serves⟩

theorem Intact.serve (intact : s.Intact) {op : Cache.Op K V} (entries : op.onEntries = true) :
    Yields (s.events.Full CacheEvent.all)
      (fun (answer, s') => interface.step s op = .ok (answer, s') ∧ s'.capacity = s.capacity ∧
        s.Leaves CacheEvent.all s') (interface.step s op) := by
  obtain ⟨l, m⟩ := intact
  apply (m.serve entries).itself.mono id
  rintro ⟨answer, s'⟩ ⟨stepped, _, served⟩
  refine ⟨stepped, served.capacity, ⟨_, served.models⟩, ?_⟩
  intro event
  rw [CacheEvent.count_all]
  exact served.counted event

end Shard

end CacheAside
