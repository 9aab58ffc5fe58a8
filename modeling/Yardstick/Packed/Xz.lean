import Yardstick.Packed.Checksum
import Yardstick.Packed.Lzma

/-!
# Files of range-coded data

Such a file is a sequence of streams, of which those after the first one count only as far as they can be
read. A stream has blocks, an index of them, and marks around; a block has chunks of range-coded data or of
bytes as they are. An older form has a short header before one run of range-coded data.
-/

namespace Yardstick.Packed.Xz

open Decimal (twoTo)

def corrupt {α : Type} : Except Fault α := .error (.xz .data)

/-- Reads a number of seven bits a byte, the lowest first, of `n` bytes at most. -/
def readSized : (n : Nat) → (first : Bool) → List UInt8 → Except Fault (Nat × List UInt8)
  | 0, _, _ => corrupt
  | _ + 1, _, [] => .error .truncated
  | n + 1, first, b :: bytes =>
    if b < 128 then (if b = 0 && !first then corrupt else .ok (b.toNat, bytes))
    else (readSized n false bytes).map fun (v, rest) => (b.toNat - 128 + 128 * v, rest)

/-- Reads a number of seven bits a byte. -/
def readLength (bytes : List UInt8) : Except Fault (Nat × List UInt8) := readSized 9 true bytes

/-- Reads zero bytes that fill `size` up to a multiple of four. -/
def readPadding (size : Nat) (bytes : List UInt8) : Except Fault (List UInt8) :=
  go ((4 - size % 4) % 4) bytes
where
  go : Nat → List UInt8 → Except Fault (List UInt8)
    | 0, bytes => .ok bytes
    | _ + 1, [] => .error .truncated
    | n + 1, b :: bytes => if b = 0 then go n bytes else corrupt

/-! ## Chunks -/

/-- The state between chunks. -/
structure Chunks where
  coder : Lzma.Coder
  /-- Whether the options have been read. -/
  hasOptions : Bool
  /-- Whether there are bytes to refer to, or a chunk has said that there are none. -/
  hasStart : Bool

def highNumber (bytes : List UInt8) : Nat := bytes.foldl (fun n b => 256 * n + b.toNat) 0

/-- Reads a chunk of bytes as they are. -/
def readPlain (c : Chunks) (bytes : List UInt8) : Except Fault (Chunks × List UInt8) := do
  let (size, bytes) ← readBytes 2 bytes
  let (content, bytes) ← readBytes (highNumber size + 1) bytes
  return ({ c with coder := { c.coder with output := c.coder.output ++ content.toArray } }, bytes)

/-- Reads a chunk of range-coded data. -/
def readCoded (control : Nat) (c : Chunks) (bytes : List UInt8) : Except Fault (Chunks × List UInt8) := do
  let (size, bytes) ← readBytes 2 bytes
  let (packedSize, bytes) ← readBytes 2 bytes
  let size := control % 32 * 0x10000 + highNumber size + 1
  let packedSize := highNumber packedSize + 1
  let (coder, bytes) ←
    if 0xC0 ≤ control then do
      let (b, bytes) ← readBytes 1 bytes
      match Lzma.Options.ofByte? (b.headD 0) with
      | some o => pure (c.coder.reset o, bytes)
      | none => corrupt
    else if !c.hasOptions then corrupt
    else pure (if 0xA0 ≤ control then c.coder.reset c.coder.options else c.coder, bytes)
  let ending : Fault := if bytes.length < packedSize then .truncated else .xz .data
  let limit := coder.output.size + size
  let read : Lzma.Reading Unit := do
    Lzma.start (bytes.take packedSize) ending
    Lzma.readUntil limit (size + 1)
  let (_, coder) ← read.run coder
  if coder.code ≠ 0 || !coder.input.isEmpty then corrupt
  return (⟨coder, true, c.hasStart⟩, bytes.drop packedSize)

/-- Reads chunks up to the end, `fuel` at most. -/
def readChunks : (fuel : Nat) → Chunks → List UInt8 → Except Fault (Array UInt8 × List UInt8)
  | 0, _, _ => .error .truncated
  | _ + 1, _, [] => .error .truncated
  | fuel + 1, c, b :: bytes => do
    let control := b.toNat
    let fresh := 0xE0 ≤ control || control = 1
    if control = 0 then return (c.coder.output, bytes)
    if !fresh && !c.hasStart then corrupt
    if 2 < control && control < 0x80 then corrupt
    let c : Chunks :=
      if fresh then ⟨{ c.coder with start := c.coder.output.size }, false, true⟩ else c
    let (c, bytes) ← if control < 0x80 then readPlain c bytes else readCoded control c bytes
    readChunks fuel c bytes

/-! ## Blocks -/

/-- How many bytes the check of a block has. -/
def checkSize (kind : Nat) : Nat :=
  if kind = 0 then 0 else 4 * twoTo ((kind - 1) / 3)

/-- Whether a check agrees. Only those of four and eight bytes that are in use are looked at. -/
def agrees (kind : Nat) (check content : List UInt8) : Bool :=
  if kind = 1 then lowNumber check = checksum content
  else if kind = 4 then lowNumber check = longChecksum content
  else true

/-- What the index says of a block: its size without padding, and the size of its content. -/
abbrev BlockSizes := Nat × Nat

/-- Reads a size that a block header may have. -/
def readOptional (given : Bool) (bytes : List UInt8) : Except Fault (Option Nat × List UInt8) :=
  if given then (readLength bytes).map fun (n, rest) => (some n, rest) else .ok (none, bytes)

def unsupported {α : Type} : Except Fault α := .error (.xz .options)

/-- Reads the sizes that a block header gives. It has to name range-coded data in chunks, and no other
change to the content. -/
def readBlockHeader (header : List UInt8) : Except Fault (Option Nat × Option Nat) := do
  let body := header.take (header.length - 4)
  if lowNumber (header.drop (header.length - 4)) ≠ checksum body then corrupt
  let flags := (body.getD 1 0).toNat
  if flags / 4 % 16 ≠ 0 then unsupported
  let inside {α : Type} (x : Except Fault α) : Except Fault α := x.mapError fun _ => .xz .data
  let (packedSize, fields) ← inside (readOptional (flags.testBit 6) (body.drop 2))
  if packedSize = some 0 then corrupt
  let (size, fields) ← inside (readOptional (flags.testBit 7) fields)
  if flags % 4 ≠ 0 then unsupported
  let (filter, fields) ← inside (readLength fields)
  if twoTo 62 ≤ filter then corrupt
  let (count, fields) ← inside (readLength fields)
  if fields.length < count then corrupt
  if filter ≠ 0x21 || count ≠ 1 || 40 < (fields.headD 0) then unsupported
  if (fields.drop 1).any (· ≠ 0) then unsupported
  return (packedSize, size)

/-- Reads a block with a header of `headerSize` bytes. -/
def readBlock (check headerSize : Nat) (bytes : List UInt8) :
    Except Fault ((List UInt8 × BlockSizes) × List UInt8) := do
  let (header, bytes) ← readBytes headerSize bytes
  let (packedSize?, size?) ← readBlockHeader header
  let chunks : Chunks := ⟨.initial ⟨0, 0, 0⟩, false, false⟩
  let (content, rest) ← readChunks bytes.length chunks bytes
  let packedSize := bytes.length - rest.length
  if packedSize?.any (· ≠ packedSize) || size?.any (· ≠ content.size) then corrupt
  let rest ← readPadding packedSize rest
  let (found, rest) ← readBytes (checkSize check) rest
  if !agrees check found content.toList then corrupt
  return ((content.toList, (headerSize + packedSize + checkSize check, content.size)), rest)

/-- Reads records of an index that has to list some blocks. -/
def readRecords : (blocks : List BlockSizes) → List UInt8 → Except Fault (List UInt8)
  | [], bytes => .ok bytes
  | sizes :: blocks, bytes => do
    let (packedSize, bytes) ← readLength bytes
    let (size, bytes) ← readLength bytes
    if sizes ≠ (packedSize, size) then corrupt
    readRecords blocks bytes

def headMark : List UInt8 := [0xFD, 0x37, 0x7A, 0x58, 0x5A, 0x00]

/-- Reads the index after its mark, and what ends the stream. -/
def readIndex (flags : List UInt8) (blocks : List BlockSizes) (bytes : List UInt8) :
    Except Fault (List UInt8) := do
  let all := 0 :: bytes
  let (count, rest) ← readLength bytes
  if count ≠ blocks.length then corrupt
  let rest ← readRecords blocks rest
  let rest ← readPadding (all.length - rest.length) rest
  let size := all.length - rest.length
  let (sum, rest) ← readNumber 4 rest
  if sum ≠ checksum (all.take size) then corrupt
  let (ending, rest) ← readBytes 12 rest
  if ending.drop 10 ≠ [0x59, 0x5A] then corrupt
  if lowNumber (ending.take 4) ≠ checksum ((ending.drop 4).take 6) then corrupt
  if (lowNumber ((ending.drop 4).take 4) + 1) * 4 ≠ size + 4 then corrupt
  if (ending.drop 8).take 2 ≠ flags then corrupt
  return rest

/-- Reads blocks, `fuel` at most, and the index after them. -/
def readBlocks (flags : List UInt8) : (fuel : Nat) → (earlier : List BlockSizes) → List UInt8 →
    Except Fault (List UInt8 × List UInt8)
  | 0, _, _ => .error .truncated
  | _ + 1, _, [] => .error .truncated
  | fuel + 1, earlier, b :: bytes => do
    if b = 0 then
      return ([], ← readIndex flags earlier.reverse bytes)
    let check := (flags.getD 1 0).toNat
    let ((content, sizes), rest) ← readBlock check (4 * (b.toNat + 1)) (b :: bytes)
    let (more, rest) ← readBlocks flags fuel (sizes :: earlier) rest
    return (content ++ more, rest)

/-! ## Streams -/

/-- Reads a stream with marks. -/
def readMarked (bytes : List UInt8) : Except Fault (List UInt8 × List UInt8) := do
  let (header, bytes) ← readBytes 12 bytes
  if header.take 6 ≠ headMark then throw (.xz .format)
  let flags := (header.drop 6).take 2
  if lowNumber (header.drop 8) ≠ checksum flags then corrupt
  if flags.getD 0 0 ≠ 0 || 16 ≤ flags.getD 1 0 then unsupported
  readBlocks flags bytes.length [] bytes

/-- Whether the number of bytes to refer to is a power of two, or one and a half of one, or any. -/
def isUsualSize (n : Nat) : Bool :=
  n = 0 || n = twoTo 32 - 1 || (List.range 32).any fun k => n = twoTo k || n = twoTo k + twoTo (k - 1)

/-- Reads a stream of the older form. A size of all ones says that the data has an end of its own. -/
def readBare (bytes : List UInt8) : Except Fault (List UInt8 × List UInt8) := do
  let (b, bytes) ← readBytes 1 bytes
  let some options := Lzma.Options.ofByte? (b.headD 0) | throw (.xz .format)
  let (known, bytes) ← readNumber 4 bytes
  if !isUsualSize known then throw (.xz .format)
  let (size, bytes) ← readNumber 8 bytes
  let endless := size = twoTo 64 - 1
  if !endless && twoTo 38 ≤ size then throw (.xz .format)
  let read : Lzma.Reading Unit := do
    Lzma.start bytes .truncated
    let fuel := 400 * (bytes.length + 5)
    if endless then Lzma.readToEnd size fuel
    else
      Lzma.readUntil size fuel
      if (← get).code ≠ 0 then Lzma.readToEnd size 1
  let (_, coder) ← read.run (.initial options)
  return (coder.output.toList, coder.input)

/-- Reads a stream: its content, and the bytes after it. -/
def readStream (bytes : List UInt8) : Except Fault (List UInt8 × List UInt8) :=
  if bytes.head? = some 0xFD then readMarked bytes else readBare bytes

/-- Reads the streams after the first one, `fuel` at most. -/
def readMore : (fuel : Nat) → List UInt8 → Except Fault (List UInt8)
  | 0, _ => .ok []
  | _ + 1, [] => .ok []
  | fuel + 1, bytes =>
    match readStream bytes with
    | .ok (content, rest) => (readMore fuel rest).map (content ++ ·)
    | .error .truncated => .error .truncated
    | .error _ => .ok []

/-- The content of a file. -/
def content (bytes : List UInt8) : Except Fault (List UInt8) := do
  let (content, rest) ← readStream bytes
  return content ++ (← readMore rest.length rest)

end Yardstick.Packed.Xz
