import Yardstick.Packed.Checksum
import Yardstick.Packed.PrefixCode

/-!
# Bzip files

A bzip file is a sequence of streams, a stream a sequence of blocks. The bytes of a block, with long
runs shortened, are sorted by what follows them, replaced by their places in a list of recent bytes, and
written in up to six prefix codes. What follows the first stream and cannot be read is left out.
-/

namespace Yardstick.Packed.Bzip

/-- Reads bytes that have to be there. -/
def expect : List Nat → List Bool → Except Fault (List Bool)
  | [], bits => .ok bits
  | b :: bs, bits => do
    let (v, bits) ← readHighBits 0 8 bits
    if v ≠ b then throw .bzip
    expect bs bits

/-- The numbers from `start` on whose bit is set among the next `n`. -/
def readSet (start : Nat) : (n : Nat) → List Bool → Except Fault (List Nat × List Bool)
  | 0, bits => .ok ([], bits)
  | _ + 1, [] => .error .truncated
  | n + 1, b :: bits => do
    let (set, bits) ← readSet (start + 1) n bits
    return (if b then start :: set else set, bits)

/-- Reads which bytes of each group of sixteen are in use. -/
def readGroups : (groups : List Nat) → List Bool → Except Fault (List Nat × List Bool)
  | [], bits => .ok ([], bits)
  | g :: groups, bits => do
    let (set, bits) ← readSet (16 * g) 16 bits
    let (sets, bits) ← readGroups groups bits
    return (set ++ sets, bits)

/-- The list with the element at a place moved to the front. -/
def toFront (place : Nat) (recent : List Nat) : List Nat :=
  match recent[place]? with
  | some a => a :: recent.eraseIdx place
  | none => recent

/-- Reads how many bits are set up to one that is not; there have to be fewer than `limit`. -/
def readOnes (limit : Nat) : (ones : Nat) → List Bool → Except Fault (Nat × List Bool)
  | _, [] => .error .truncated
  | ones, false :: bits => .ok (ones, bits)
  | ones, true :: bits => if limit ≤ ones + 1 then .error .bzip else readOnes limit (ones + 1) bits

/-- Reads `n` choices of a code, each by its place among the recent ones. -/
def readChoices (recent : List Nat) : (n : Nat) → List Bool → Except Fault (List Nat × List Bool)
  | 0, bits => .ok ([], bits)
  | n + 1, bits => do
    let (place, bits) ← readOnes recent.length 0 bits
    let recent := toFront place recent
    let (choices, bits) ← readChoices recent n bits
    return (recent.take 1 ++ choices, bits)

/-- The longest word of a code. -/
def wordLimit : Nat := 20

/-- Reads a length as steps from the one before, `fuel` at most. -/
def readLength : (fuel : Nat) → (length : Nat) → List Bool → Except Fault (Nat × List Bool)
  | 0, _, _ => .error .truncated
  | fuel + 1, length, bits =>
    if length < 1 || wordLimit < length then .error .bzip
    else
      match bits with
      | false :: bits => .ok (length, bits)
      | true :: false :: bits => readLength fuel (length + 1) bits
      | true :: true :: bits => readLength fuel (length - 1) bits
      | _ => .error .truncated

/-- Reads the lengths of `n` symbols. -/
def readLengths : (n : Nat) → (length : Nat) → List Bool → Except Fault (List Nat × List Bool)
  | 0, _, bits => .ok ([], bits)
  | n + 1, length, bits => do
    let (length, bits) ← readLength bits.length length bits
    let (lengths, bits) ← readLengths n length bits
    return (length :: lengths, bits)

/-- Reads `n` codes for so many symbols. A word that is in none is noticed after the longest one. -/
def readCodes (symbols : Nat) : (n : Nat) → List Bool → Except Fault (List PrefixCode × List Bool)
  | 0, bits => .ok ([], bits)
  | n + 1, bits => do
    let (length, bits) ← readHighBits 0 5 bits
    let (lengths, bits) ← readLengths symbols length bits
    let code := PrefixCode.ofLengths lengths
    let counts := code.counts ++ List.replicate (wordLimit + 1 - code.counts.length) 0
    let (codes, bits) ← readCodes symbols n bits
    return ({ code with counts } :: codes, bits)

/-- Reads symbols up to the last one. A code is used for `left` more symbols, and each of the others for
fifty. -/
def readSymbols (last : Nat) : (fuel left : Nat) → (code : PrefixCode) → (codes : List PrefixCode) →
    List Bool → Except Fault (List Nat × List Bool)
  | 0, _, _, _, _ => .error .truncated
  | _ + 1, 0, _, [], _ => .error .bzip
  | fuel + 1, 0, _, code :: codes, bits => readSymbols last fuel 50 code codes bits
  | fuel + 1, left + 1, code, codes, bits => do
    match ← code.read bits with
    | (none, _) => throw .bzip
    | (some symbol, bits) =>
      if symbol = last then return ([], bits)
      let (symbols, bits) ← readSymbols last fuel left code codes bits
      return (symbol :: symbols, bits)

/-- The bytes of a block while its symbols are replaced. -/
structure Unpacking where
  bytes : Array Nat
  recent : List Nat
  /-- How often the most recent byte is repeated, by the symbols so far. -/
  run : Nat
  /-- What the next symbol of a run counts. -/
  weight : Nat

/-- Writes the run, as far as there is room. -/
def Unpacking.endRun (u : Unpacking) (room : Nat) : Except Fault Unpacking :=
  if room < u.bytes.size + u.run then .error .bzip
  else .ok { u with
    bytes := u.bytes ++ (List.replicate u.run (u.recent.headD 0)).toArray, run := 0, weight := 1 }

def Unpacking.step (room : Nat) (u : Unpacking) (symbol : Nat) : Except Fault Unpacking := do
  if symbol < 2 then
    if 0x200000 ≤ u.weight then throw .bzip
    return { u with run := u.run + (symbol + 1) * u.weight, weight := 2 * u.weight }
  else
    let u ← u.endRun room
    if room ≤ u.bytes.size then throw .bzip
    let recent := toFront (symbol - 1) u.recent
    return { u with bytes := u.bytes.push (recent.headD 0), recent }

/-- The bytes of a block from their sorted order, of which the first comes after the one at `start`. -/
def unsort (bytes : Array Nat) (start : Nat) : List Nat :=
  let order := ((List.range bytes.size).mergeSort fun i j => bytes.getD i 0 ≤ bytes.getD j 0).toArray
  follow order bytes.size (order.getD start 0)
where
  follow (order : Array Nat) : Nat → Nat → List Nat
    | 0, _ => []
    | n + 1, i => bytes.getD i 0 :: follow order n (order.getD i 0)

/-- The bytes with runs restored: four equal bytes are followed by how many more there are. -/
def restoreRuns : (seen : Nat) → (before : Nat) → List Nat → Except Fault (List Nat)
  | seen, _, [] => if seen = 4 then .error .bzip else .ok []
  | seen, before, b :: bs =>
    if seen = 4 then (restoreRuns 0 0 bs).map (List.replicate b before ++ ·)
    else if 0 < seen && b = before then (restoreRuns (seen + 1) b bs).map (b :: ·)
    else (restoreRuns 1 b bs).map (b :: ·)

/-- Reads a block after its mark: its bytes, and their checksum. -/
def readBlock (room : Nat) (bits : List Bool) : Except Fault ((List UInt8 × UInt32) × List Bool) := do
  let (stored, bits) ← readHighBits 0 32 bits
  let (scrambled, bits) ← readHighBits 0 1 bits
  let (start, bits) ← readHighBits 0 24 bits
  if room + 10 < start then throw .bzip
  let (groups, bits) ← readSet 0 16 bits
  let (used, bits) ← readGroups groups bits
  if used.isEmpty then throw .bzip
  let (codeCount, bits) ← readHighBits 0 3 bits
  if codeCount < 2 || 6 < codeCount then throw .bzip
  let (choiceCount, bits) ← readHighBits 0 15 bits
  if choiceCount < 1 then throw .bzip
  let (choices, bits) ← readChoices (List.range codeCount) choiceCount bits
  let (codes, bits) ← readCodes (used.length + 2) codeCount bits
  let chosen := choices.filterMap fun i => codes[i]?
  let (symbols, bits) ← readSymbols (used.length + 1) (2 * bits.length + 2) 0 ⟨[], []⟩ chosen bits
  let unpacked ← (← symbols.foldlM (Unpacking.step room) ⟨#[], used, 0, 1⟩).endRun room
  if unpacked.bytes.size ≤ start || scrambled = 1 then throw .bzip
  let content := (← restoreRuns 0 0 (unsort unpacked.bytes start)).map UInt8.ofNat
  if (highChecksum content).toNat ≠ stored then throw .bzip
  return ((content, highChecksum content), bits)

/-- Reads blocks up to the end of the stream. `sum` is the checksum of those before. -/
def readBlocks (room : Nat) : (fuel : Nat) → (sum : UInt32) → List Bool →
    Except Fault (List UInt8 × List Bool)
  | 0, _, _ => .error .truncated
  | fuel + 1, sum, bits => do
    let (mark, bits) ← readHighBits 0 8 bits
    if mark = 0x17 then
      let (stored, bits) ← readHighBits 0 32 (← expect [0x72, 0x45, 0x38, 0x50, 0x90] bits)
      if stored ≠ sum.toNat then throw .bzip
      return ([], bits)
    else if mark = 0x31 then
      let ((content, added), bits) ← readBlock room (← expect [0x41, 0x59, 0x26, 0x53, 0x59] bits)
      let sum := ((sum <<< 1) ||| (sum >>> 31)) ^^^ added
      let (rest, bits) ← readBlocks room fuel sum bits
      return (content ++ rest, bits)
    else throw .bzip

/-- Reads a stream: its content, and the bytes after it. -/
def readStream (bytes : List UInt8) : Except Fault (List UInt8 × List UInt8) := do
  let bits ← expect [0x42, 0x5A, 0x68] (bytes.flatMap highBits)
  let (level, bits) ← readHighBits 0 8 bits
  if level < 0x31 || 0x39 < level then throw .bzip
  let (content, bits) ← readBlocks (100000 * (level - 0x30)) bits.length 0 bits
  return (content, bytes.drop (bytes.length - bits.length / 8))

/-- Reads the streams after the first one, `fuel` at most. -/
def readMore : (fuel : Nat) → List UInt8 → Except Fault (List UInt8)
  | 0, _ => .ok []
  | _ + 1, [] => .ok []
  | fuel + 1, bytes =>
    match readStream bytes with
    | .ok (content, rest) => (readMore fuel rest).map (content ++ ·)
    | .error .truncated => .error .truncated
    | .error _ => .ok []

/-- The content of a file. -/
def content (bytes : List UInt8) : Except Fault (List UInt8) := do
  let (content, rest) ← readStream bytes
  return content ++ (← readMore rest.length rest)

end Yardstick.Packed.Bzip
