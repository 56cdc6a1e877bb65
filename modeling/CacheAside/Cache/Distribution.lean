namespace CacheAside.Sharded

/-- The capacity of shard `index` when `capacity` is spread over `count` shards: the first shards
    take one of the remainder each. -/
def share (capacity count index : Nat) : Nat :=
  capacity / count + if index < capacity % count then 1 else 0

/-- The capacities of all shards. There are fewer shards than asked for where the capacity does not
    give each of them an entry. -/
def shares (capacity shards : Nat) : List Nat :=
  (List.range (min shards capacity)).map (share capacity (min shards capacity))

end CacheAside.Sharded
