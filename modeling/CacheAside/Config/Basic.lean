import CacheAside.Cache.Basic

namespace CacheAside

inductive LockStrategy where
  | coarse
  | sharded
  deriving DecidableEq, Repr

namespace LockStrategy

def all : List LockStrategy := [coarse, sharded]

def name : LockStrategy → String
  | coarse => "coarse"
  | sharded => "sharded"

def ofName? (name : String) : Option LockStrategy := all.find? fun strategy => strategy.name = name

end LockStrategy

/-- What a service is built from. `shardCount` counts only where the strategy is sharded, and
    without `acquireTimeoutMs` requests wait for a connection without a bound. -/
structure Config where
  cacheCapacity : Nat := 1024
  shardCount : Nat := Sharded.defaultShards
  lockStrategy : LockStrategy := .sharded
  poolMaxSize : Nat := 8
  acquireTimeoutMs : Option Nat := none
  deriving DecidableEq, Repr, Inhabited

namespace Config

def validate (c : Config) : Except ConfigError Unit :=
  if c.cacheCapacity = 0 then .error .zeroCapacity
  else if c.lockStrategy = .sharded ∧ c.shardCount = 0 then .error .zeroShards
  else if c.poolMaxSize = 0 then .error .zeroPoolSize
  else if c.acquireTimeoutMs = some 0 then .error .zeroTimeout
  else .ok ()

def policy (c : Config) : CachePolicy :=
  match c.lockStrategy with
  | .coarse => .coarse
  | .sharded => .sharded c.shardCount

def acquireTimeout (c : Config) : Option Span := c.acquireTimeoutMs.map Span.ofMillis

end Config

end CacheAside
