import Yardstick.Packed.Fault

/-!
# Bits and bytes

Packed data is read from a list of bits or bytes, of which each reader gives back the rest.
-/

namespace Yardstick.Packed

/-- The bits of a byte, the lowest first. -/
def lowBits (b : UInt8) : List Bool := (List.range 8).map fun i => b.toNat.testBit i

/-- Reads a number of `n` bits, the lowest first. -/
def readBits : (n : Nat) → List Bool → Except Fault (Nat × List Bool)
  | 0, bits => .ok (0, bits)
  | _ + 1, [] => .error .truncated
  | n + 1, b :: bits => (readBits n bits).map fun (v, rest) => (b.toNat + 2 * v, rest)

/-- The bits of a byte, the highest first. -/
def highBits (b : UInt8) : List Bool := (lowBits b).reverse

/-- Reads a number of `n` bits, the highest first, after those of `v`. -/
def readHighBits (v : Nat) : (n : Nat) → List Bool → Except Fault (Nat × List Bool)
  | 0, bits => .ok (v, bits)
  | _ + 1, [] => .error .truncated
  | n + 1, b :: bits => readHighBits (2 * v + b.toNat) n bits

/-- Reads so many bytes. -/
def readBytes : (n : Nat) → List UInt8 → Except Fault (List UInt8 × List UInt8)
  | 0, bytes => .ok ([], bytes)
  | _ + 1, [] => .error .truncated
  | n + 1, b :: bytes => (readBytes n bytes).map fun (bs, rest) => (b :: bs, rest)

/-- The number of some bytes, the lowest first. -/
def lowNumber (bytes : List UInt8) : Nat := bytes.foldr (fun b n => b.toNat + 256 * n) 0

/-- Reads a number of `n` bytes, the lowest first. -/
def readNumber (n : Nat) (bytes : List UInt8) : Except Fault (Nat × List UInt8) :=
  (readBytes n bytes).map fun (bs, rest) => (lowNumber bs, rest)

end Yardstick.Packed
