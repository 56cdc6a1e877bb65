import CacheAside.Config.Basic

namespace CacheAside.Config

inductive Field where
  | cacheCapacity
  | shardCount
  | lockStrategy
  | poolMaxSize
  | acquireTimeoutMs
  deriving DecidableEq, Repr

namespace Field

def all : List Field := [cacheCapacity, shardCount, lockStrategy, poolMaxSize, acquireTimeoutMs]

def name : Field → String
  | cacheCapacity => "cache_capacity"
  | shardCount => "shard_count"
  | lockStrategy => "lock_strategy"
  | poolMaxSize => "pool_max_size"
  | acquireTimeoutMs => "acquire_timeout_ms"

def ofName? (name : String) : Option Field := all.find? fun field => field.name = name

end Field

structure Draft where
  cacheCapacity : Option Nat := none
  shardCount : Option Nat := none
  lockStrategy : Option LockStrategy := none
  poolMaxSize : Option Nat := none
  acquireTimeoutMs : Option (Option Nat) := none
  deriving DecidableEq, Repr, Inhabited

namespace Draft

def gives (d : Draft) : Field → Bool
  | .cacheCapacity => d.cacheCapacity.isSome
  | .shardCount => d.shardCount.isSome
  | .lockStrategy => d.lockStrategy.isSome
  | .poolMaxSize => d.poolMaxSize.isSome
  | .acquireTimeoutMs => d.acquireTimeoutMs.isSome

def complete (d : Draft) : Config :=
  let default : Config := {}
  { cacheCapacity := d.cacheCapacity.getD default.cacheCapacity
    shardCount := d.shardCount.getD default.shardCount
    lockStrategy := d.lockStrategy.getD default.lockStrategy
    poolMaxSize := d.poolMaxSize.getD default.poolMaxSize
    acquireTimeoutMs := d.acquireTimeoutMs.getD default.acquireTimeoutMs }

end Draft

end CacheAside.Config
