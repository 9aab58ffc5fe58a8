import Yardstick.Packed.PrefixCode

/-!
# Deflated data

Deflated data is a sequence of blocks. A block holds bytes as they are, or symbols of two prefix codes,
which are fixed or come with the block: bytes, and references to bytes that have been read before.
-/

namespace Yardstick.Packed.Deflate

/-- What has been read, and the bits after it. -/
structure Progress where
  output : Array UInt8
  bits : List Bool

/-- The number of a length symbol from 257 on: its least value, and the bits that add to it. -/
def lengthRanges : List (Nat × Nat) :=
  [(3, 0), (4, 0), (5, 0), (6, 0), (7, 0), (8, 0), (9, 0), (10, 0), (11, 1), (13, 1), (15, 1), (17, 1),
   (19, 2), (23, 2), (27, 2), (31, 2), (35, 3), (43, 3), (51, 3), (59, 3), (67, 4), (83, 4), (99, 4),
   (115, 4), (131, 5), (163, 5), (195, 5), (227, 5), (258, 0)]

/-- The number of a distance symbol. -/
def distanceRanges : List (Nat × Nat) :=
  [(1, 0), (2, 0), (3, 0), (4, 0), (5, 1), (7, 1), (9, 2), (13, 2), (17, 3), (25, 3), (33, 4), (49, 4),
   (65, 5), (97, 5), (129, 6), (193, 6), (257, 7), (385, 7), (513, 8), (769, 8), (1025, 9), (1537, 9),
   (2049, 10), (3073, 10), (4097, 11), (6145, 11), (8193, 12), (12289, 12), (16385, 13), (24577, 13)]

/-- Reads the number of a symbol. -/
def readRange (ranges : List (Nat × Nat)) (symbol : Nat) (missing : DeflateCause) (bits : List Bool) :
    Except Fault (Nat × List Bool) :=
  match ranges[symbol]? with
  | some (least, extra) => (readBits extra bits).map fun (n, rest) => (least + n, rest)
  | none => .error (.deflate missing)

/-- The output with `n` bytes from so far back added. -/
def copyBack (output : Array UInt8) (distance : Nat) : (n : Nat) → Array UInt8
  | 0 => output
  | n + 1 => copyBack (output.push (output.getD (output.size - distance) 0)) distance n

/-- The two codes of a block. -/
structure Codes where
  literals : PrefixCode
  distances : PrefixCode

/-- Reads the symbols of a block, `fuel` at most. -/
def readSymbols (codes : Codes) : (fuel : Nat) → Progress → Except Fault Progress
  | 0, _ => .error .truncated
  | fuel + 1, p => do
    match ← codes.literals.read p.bits with
    | (none, _) => throw (.deflate .literalCode)
    | (some symbol, bits) =>
      if symbol < 256 then readSymbols codes fuel ⟨p.output.push symbol.toUInt8, bits⟩
      else if symbol = 256 then return ⟨p.output, bits⟩
      else
        let (length, bits) ← readRange lengthRanges (symbol - 257) .literalCode bits
        match ← codes.distances.read bits with
        | (none, _) => throw (.deflate .distanceCode)
        | (some symbol, bits) =>
          let (distance, bits) ← readRange distanceRanges symbol .distanceCode bits
          if p.output.size < distance then throw (.deflate .farDistance)
          readSymbols codes fuel ⟨copyBack p.output distance length, bits⟩

/-- The codes of a block that brings none. -/
def fixedCodes : Codes where
  literals := .ofLengths (List.replicate 144 8 ++ List.replicate 112 9 ++ List.replicate 24 7 ++
    List.replicate 8 8)
  distances := .ofLengths (List.replicate 32 5)

/-- The order in which the lengths of the code for lengths stand. -/
def lengthOrder : List Nat := [16, 17, 18, 0, 8, 7, 9, 6, 10, 5, 11, 4, 12, 3, 13, 2, 14, 1, 15]

/-- Reads `n` numbers of three bits. -/
def readTriples : (n : Nat) → List Bool → Except Fault (List Nat × List Bool)
  | 0, bits => .ok ([], bits)
  | n + 1, bits => do
    let (v, bits) ← readBits 3 bits
    let (vs, bits) ← readTriples n bits
    return (v :: vs, bits)

/-- Reads `wanted` lengths after those in `read`, the last first. A length may be repeated. -/
def readLengths (code : PrefixCode) : (fuel wanted : Nat) → (read : List Nat) → List Bool →
    Except Fault (List Nat × List Bool)
  | _, 0, read, bits => .ok (read.reverse, bits)
  | 0, _ + 1, _, _ => .error .truncated
  | fuel + 1, wanted + 1, read, bits => do
    let (symbol, bits) ← code.read bits
    let symbol := symbol.getD 0
    if symbol < 16 then readLengths code fuel wanted (symbol :: read) bits
    else
      let (least, extra) := if symbol = 16 then (3, 2) else if symbol = 17 then (3, 3) else (11, 7)
      let (n, bits) ← readBits extra bits
      let times := least + n
      match (if symbol = 16 then read.head? else some 0) with
      | none => throw (.deflate .repeatedLength)
      | some length =>
        if wanted + 1 < times then throw (.deflate .repeatedLength)
        readLengths code fuel (wanted + 1 - times) (List.replicate times length ++ read) bits

/-- Reads the codes that a block brings. -/
def readCodes (bits : List Bool) : Except Fault (Codes × List Bool) := do
  let (n, bits) ← readBits 5 bits
  let literals := 257 + n
  let (n, bits) ← readBits 5 bits
  let distances := 1 + n
  let (n, bits) ← readBits 4 bits
  if 286 < literals || 30 < distances then throw (.deflate .tooManySymbols)
  let (sizes, bits) ← readTriples (4 + n) bits
  let code := PrefixCode.ofLengths ((List.range 19).map fun i => ((lengthOrder.zip sizes).lookup i).getD 0)
  if code.spare ≠ 0 && sizes.any (· ≠ 0) then throw (.deflate .codeLengths)
  let (lengths, bits) ← readLengths code bits.length (literals + distances) [] bits
  if lengths.getD 256 0 = 0 then throw (.deflate .noEndOfBlock)
  let codes : Codes := ⟨.ofLengths (lengths.take literals), .ofLengths (lengths.drop literals)⟩
  if !codes.literals.isUsable then throw (.deflate .literalLengths)
  if !codes.distances.isUsable then throw (.deflate .distances)
  return (codes, bits)

/-- Reads `n` bytes as they are. -/
def readPlain : (n : Nat) → Progress → Except Fault Progress
  | 0, p => .ok p
  | n + 1, p => do
    let (b, bits) ← readBits 8 p.bits
    readPlain n ⟨p.output.push b.toUInt8, bits⟩

/-- Reads a block of bytes as they are, from the next whole byte on. -/
def readStored (p : Progress) : Except Fault Progress := do
  let (length, bits) ← readBits 16 (p.bits.drop (p.bits.length % 8))
  let (complement, bits) ← readBits 16 bits
  if length + complement ≠ 0xFFFF then throw (.deflate .storedLengths)
  readPlain length ⟨p.output, bits⟩

/-- Reads blocks up to the last one, `fuel` at most. -/
def readBlocks : (fuel : Nat) → Progress → Except Fault Progress
  | 0, _ => .error .truncated
  | fuel + 1, p => do
    let (last, bits) ← readBits 1 p.bits
    let (kind, bits) ← readBits 2 bits
    let p := { p with bits }
    let p ←
      if kind = 0 then readStored p
      else if kind = 1 then readSymbols fixedCodes bits.length p
      else if kind = 2 then
        let (codes, bits) ← readCodes bits
        readSymbols codes bits.length { p with bits }
      else throw (.deflate .blockType)
    if last = 1 then return p else readBlocks fuel p

/-- The content of deflated data, and the bytes that follow it. -/
def inflate (bytes : List UInt8) : Except Fault (List UInt8 × List UInt8) := do
  let bits := bytes.flatMap lowBits
  let p ← readBlocks bits.length ⟨#[], bits⟩
  return (p.output.toList, bytes.drop (bytes.length - p.bits.length / 8))

end Yardstick.Packed.Deflate
