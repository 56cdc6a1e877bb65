import CacheAside.Cache.Op
import CacheAside.Proofs.Replay

namespace CacheAside

structure Interface (K V σ : Type) where
  put : σ → K → V → Except Fault σ
  get : σ → K → Except Fault (Option V × σ)
  remove : σ → K → Except Fault (Bool × σ)
  contains : σ → K → Except Fault Bool
  peek : σ → K → Except Fault (Option V)
  clear : σ → Except Fault σ
  len : σ → Except Fault Nat
  capacity : σ → Nat
  metrics : σ → Except Fault CacheMetrics
  describe : σ → String

def Interface.step {K V σ : Type} (i : Interface K V σ) (s : σ) :
    Cache.Op K V → Except Fault (Cache.Answer V × σ)
  | .put key value => do return (.done, ← i.put s key value)
  | .get key => do let (value, s) ← i.get s key; return (.value value, s)
  | .remove key => do let (found, s) ← i.remove s key; return (.flag found, s)
  | .contains key => do return (.flag (← i.contains s key), s)
  | .peek key => do return (.value (← i.peek s key), s)
  | .clear => do return (.done, ← i.clear s)
  | .len => do return (.size (← i.len s) (i.capacity s), s)
  | .metrics => do return (.metrics (← i.metrics s), s)
  | .hitRatio => do return (.ratio (← (← i.metrics s).hitRatio), s)
  | .describe => return (.text (i.describe s), s)
  | .policy | .shardCount | .shardCapacities | .shardIndex _ => return (.unsupported, s)

variable {K V : Type}

def Cache.Op.shared : Op K V → Bool
  | .policy | .shardCount | .shardCapacities | .shardIndex _ => false
  | _ => true

variable [BEq K] [Hashable K]

def Shard.interface : Interface K V (Shard K V) where
  put s key value := do return (← s.insert key value).2
  get := Shard.get
  remove s key := do
    let (value, s) ← s.remove key
    return (value.isSome, s)
  contains s key := return s.contains key
  peek s key := return s.peek key
  clear := Shard.clear
  len s := return s.len
  capacity := Shard.capacity
  metrics s := return s.metrics
  describe := Shard.describe

def Coarse.interface : Interface K V (Coarse K V) where
  put := Coarse.put
  get := Coarse.get
  remove := Coarse.remove
  contains c key := return c.contains key
  peek c key := return c.peek key
  clear := Coarse.clear
  len c := return c.len
  capacity := Coarse.capacity
  metrics c := return c.metrics
  describe := Coarse.describe

variable [ByteStream K]

def Sharded.interface : Interface K V (Sharded K V) where
  put := Sharded.put
  get := Sharded.get
  remove := Sharded.remove
  contains := Sharded.contains
  peek := Sharded.peek
  clear := Sharded.clear
  len := Sharded.len
  capacity c := c.capacity
  metrics := Sharded.metrics
  describe := Sharded.describe

variable {op : Cache.Op K V} {ops : List (Cache.Op K V)}

theorem Cache.step_coarse (c : Coarse K V) (shared : op.shared = true) :
    (coarse c).step op = onState coarse (Coarse.interface.step c op) := by
  cases op with
  | put | get | remove | clear | hitRatio =>
    simp [Cache.step, Cache.put, Cache.get, Cache.remove, Cache.clear, Cache.metrics,
      Interface.step, Coarse.interface, onState]
  | contains | peek | len | metrics | describe => rfl
  | policy | shardCount | shardCapacities | shardIndex => cases shared

theorem Cache.step_sharded (c : Sharded K V) (shared : op.shared = true) :
    (sharded c).step op = onState sharded (Sharded.interface.step c op) := by
  cases op with
  | put | get | remove | clear | contains | peek | len | metrics | hitRatio =>
    simp [Cache.step, Cache.put, Cache.get, Cache.remove, Cache.clear, Cache.contains, Cache.peek,
      Cache.len, Cache.capacity, Cache.metrics, Interface.step, Sharded.interface, onState]
  | describe => rfl
  | policy | shardCount | shardCapacities | shardIndex => cases shared

/-- A cache built by policy does what the variant in it does. -/
theorem Cache.replay_coarse (c : Coarse K V) (shared : ∀ op ∈ ops, op.shared = true) :
    replay Cache.step (.coarse c) ops = onState .coarse (replay Coarse.interface.step c ops) :=
  replay_onState Cache.coarse (fun c op member => step_coarse c (shared op member)) c

theorem Cache.replay_sharded (c : Sharded K V) (shared : ∀ op ∈ ops, op.shared = true) :
    replay Cache.step (.sharded c) ops = onState .sharded (replay Sharded.interface.step c ops) :=
  replay_onState Cache.sharded (fun c op member => step_sharded c (shared op member)) c

omit [ByteStream K] in
theorem Coarse.step_eq (s : Shard K V) (described : op ≠ .describe) :
    Coarse.interface.step ⟨s⟩ op = onState Coarse.mk (Shard.interface.step s op) := by
  cases op with
  | put | get | remove | clear | hitRatio =>
    simp [Interface.step, Coarse.put, Coarse.get, Coarse.remove, Coarse.clear, Coarse.metrics,
      interface, Shard.interface, onState]
  | describe => exact absurd rfl described
  | contains | peek | len | metrics => rfl
  | policy | shardCount | shardCapacities | shardIndex => rfl

omit [ByteStream K] in
/-- A cache behind one lock does what its shard does, but describes itself with another name. -/
theorem Coarse.replay_eq (s : Shard K V) (described : ∀ op ∈ ops, op ≠ .describe) :
    replay Coarse.interface.step ⟨s⟩ ops = onState Coarse.mk (replay Shard.interface.step s ops) :=
  replay_onState Coarse.mk (fun s op member => Coarse.step_eq s (described op member)) s

end CacheAside
