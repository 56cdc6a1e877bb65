import CacheAside.Hash.Bytes
import CacheAside.Hash.Sip
import CacheAside.Text.Summary

namespace CacheAside

structure Router where
  shards : Nat
  seed : UInt64
  shards_pos : 0 < shards
  deriving DecidableEq

namespace Router

def make (shards : Nat) (seed : UInt64) : Router where
  shards := max shards 1
  seed := seed
  shards_pos := by omega

instance : Inhabited Router := ⟨make 1 0⟩

def route {K : Type} [ByteStream K] (r : Router) (key : K) : Nat :=
  (Sip.hash (ByteStream.bytes r.seed ++ ByteStream.bytes key)).toNat % r.shards

theorem route_lt {K : Type} [ByteStream K] (r : Router) (key : K) : r.route key < r.shards :=
  Nat.mod_lt _ r.shards_pos

def describe (r : Router) : String :=
  Text.record "ShardSelector" [("shards", toString r.shards), ("seed", toString r.seed)]

end Router

end CacheAside
