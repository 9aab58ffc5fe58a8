import Yardstick.Packed.Checksum
import Yardstick.Packed.Deflate

/-!
# Gzip files

A gzip file is a sequence of members, between which zero bytes may stand. A member is deflated data
with a header before it and its checksum and length after it. A file without a byte has no member.
-/

namespace Yardstick.Packed.Gzip

/-- The bytes after one that is zero. -/
def afterZero (bytes : List UInt8) : List UInt8 := (bytes.dropWhile (· ≠ 0)).drop 1

/-- The bytes after the header of a member. -/
def skipHeader (bytes : List UInt8) : Except Fault (List UInt8) := do
  if bytes.take 2 ≠ [0x1F, 0x8B] then throw (.notGzip (bytes.take 2))
  let (header, bytes) ← readBytes 8 (bytes.drop 2)
  if header.head? ≠ some 8 then throw .gzipMethod
  let has (bit : Nat) : Bool := (header.getD 1 0).toNat.testBit bit
  let bytes ←
    if has 2 then
      let (length, bytes) ← readNumber 2 bytes
      (readBytes length bytes).map (·.2)
    else pure bytes
  let bytes := if has 3 then afterZero bytes else bytes
  let bytes := if has 4 then afterZero bytes else bytes
  if has 1 then (readBytes 2 bytes).map (·.2) else return bytes

/-- Reads a member: its content, and the bytes after it. -/
def readMember (bytes : List UInt8) : Except Fault (List UInt8 × List UInt8) := do
  let (content, bytes) ← Deflate.inflate (← skipHeader bytes)
  let (stored, bytes) ← readNumber 4 bytes
  let (length, bytes) ← readNumber 4 bytes
  if stored ≠ checksum content then throw (.gzipChecksum stored (checksum content))
  if length ≠ content.length % 0x100000000 then throw .gzipLength
  return (content, bytes)

/-- Reads members, `fuel` at most. -/
def readMembers : (fuel : Nat) → List UInt8 → Except Fault (List UInt8)
  | 0, _ => .ok []
  | _ + 1, [] => .ok []
  | fuel + 1, bytes => do
    let (content, rest) ← readMember bytes
    return content ++ (← readMembers fuel (rest.dropWhile (· = 0)))

/-- The content of a file. -/
def content (bytes : List UInt8) : Except Fault (List UInt8) := readMembers bytes.length bytes

end Yardstick.Packed.Gzip
