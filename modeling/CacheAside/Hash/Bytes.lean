namespace CacheAside

/-- Values that are hashed through a stream of bytes, numbers with their low byte first. -/
class ByteStream (α : Type) where
  bytes : α → List UInt8

namespace ByteStream

def littleEndian : Nat → Nat → List UInt8
  | 0, _ => []
  | count + 1, n => n.toUInt8 :: littleEndian count (n / 256)

instance : ByteStream UInt8 := ⟨fun n => [n]⟩

instance : ByteStream UInt64 := ⟨fun n => littleEndian 8 n.toNat⟩

instance : ByteStream Int32 := ⟨fun n => littleEndian 4 n.toUInt32.toNat⟩

instance : ByteStream Int64 := ⟨fun n => littleEndian 8 n.toUInt64.toNat⟩

/-- The byte after the text occurs in no UTF-8, so that no text begins another one's stream. -/
instance : ByteStream String := ⟨fun s => s.toUTF8.toList ++ [0xFF]⟩

instance {α β : Type} [ByteStream α] [ByteStream β] : ByteStream (α × β) :=
  ⟨fun (a, b) => bytes a ++ bytes b⟩

end ByteStream

end CacheAside
