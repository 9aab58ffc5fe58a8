/-!
# Checksums

The cyclic checksums that packed files carry: one of 32 bits, of bytes with the lowest bit first or with
the highest first, and one of 64 bits.
-/

namespace Yardstick.Packed

/-- The remainder after one more bit. -/
def shiftRemainder (r : UInt32) : UInt32 :=
  if r &&& 1 = 1 then (r >>> 1) ^^^ 0xEDB88320 else r >>> 1

/-- The remainder after one more byte. -/
def addByte (r : UInt32) (b : UInt8) : UInt32 :=
  (List.range 8).foldl (fun r _ => shiftRemainder r) (r ^^^ b.toUInt32)

/-- The checksum of some bytes. -/
def checksum (bytes : List UInt8) : Nat := (bytes.foldl addByte 0xFFFFFFFF ^^^ 0xFFFFFFFF).toNat

/-- The remainder after one more byte, with the highest bit first. -/
def addHighByte (r : UInt32) (b : UInt8) : UInt32 :=
  (List.range 8).foldl (fun r _ => if r >>> 31 = 1 then (r <<< 1) ^^^ 0x04C11DB7 else r <<< 1)
    (r ^^^ (b.toUInt32 <<< 24))

/-- The checksum of some bytes with the highest bit first. -/
def highChecksum (bytes : List UInt8) : UInt32 := bytes.foldl addHighByte 0xFFFFFFFF ^^^ 0xFFFFFFFF

/-- The remainder of 64 bits after one more byte. -/
def addLongByte (r : UInt64) (b : UInt8) : UInt64 :=
  (List.range 8).foldl (fun r _ => if r &&& 1 = 1 then (r >>> 1) ^^^ 0xC96C5795D7870F42 else r >>> 1)
    (r ^^^ b.toUInt64)

/-- The checksum of 64 bits of some bytes. -/
def longChecksum (bytes : List UInt8) : Nat :=
  (bytes.foldl addLongByte 0xFFFFFFFFFFFFFFFF ^^^ 0xFFFFFFFFFFFFFFFF).toNat

end Yardstick.Packed
