import Yardstick.Decimal.Binary
import Yardstick.Packed.Bits

/-!
# Range-coded data

Each bit is read against the odds that it is zero, which every bit read with them shifts. The bits make
symbols: bytes, whose odds hang on the bytes before, and references to bytes that have been read, by a
new distance or by one of the last four.
-/

namespace Yardstick.Packed.Lzma

open Decimal (twoTo)

/-- How symbols are read: how many high bits of the byte before and low bits of the place choose the
odds of a byte, and how many low bits of the place those of the other symbols. -/
structure Options where
  byteBits : Nat
  placeBits : Nat
  symbolBits : Nat
  deriving Repr, DecidableEq

/-- The options that a byte stands for. -/
def Options.ofByte? (b : UInt8) : Option Options :=
  let n := b.toNat
  let o : Options := ⟨n % 9, n / 9 % 5, n / 45⟩
  if 224 < n || 4 < o.byteBits + o.placeBits then none else some o

/-- The state of a reader of symbols. -/
structure Coder where
  options : Options
  input : List UInt8
  /-- What is wrong when the input is too short. -/
  ending : Fault
  range : Nat
  code : Nat
  odds : Array Nat
  /-- What kinds of symbols came last, as a number below twelve. -/
  history : Nat
  /-- The last four distances, the latest first, each less one. -/
  distances : Nat × Nat × Nat × Nat
  output : Array UInt8
  /-- Where the bytes start that can be referred to. -/
  start : Nat

abbrev Reading := StateT Coder (Except Fault)

/-! Where the odds of each kind of bit stand. -/

def atMatch : Nat := 0
def atAgain : Nat := 192
def atFirst : Nat := 204
def atSecond : Nat := 216
def atThird : Nat := 228
def atLong : Nat := 240
def atSlot : Nat := 432
def atDistance : Nat := 688
def atAlign : Nat := 816
def atLength : Nat := 832
def atAgainLength : Nat := 1346
def atBytes : Nat := 1860

def evenOdds (o : Options) : Array Nat :=
  Array.replicate (atBytes + 0x300 * twoTo (o.byteBits + o.placeBits)) 1024

/-- The coder with all that it has learnt forgotten. -/
def Coder.reset (c : Coder) (o : Options) : Coder :=
  { c with options := o, odds := evenOdds o, history := 0, distances := (0, 0, 0, 0) }

def Coder.initial (o : Options) : Coder :=
  ⟨o, [], .truncated, 0, 0, evenOdds o, 0, (0, 0, 0, 0), #[], 0⟩

def readByte : Reading UInt8 := do
  let c ← get
  match c.input with
  | [] => throw c.ending
  | b :: input => set { c with input }; return b

/-- Reads `n` bytes into the code. -/
def readCode : (n : Nat) → Reading Unit
  | 0 => return ()
  | n + 1 => do
    let b ← readByte
    modify fun c => { c with code := (c.code * 256 + b.toNat) % twoTo 32 }
    readCode n

/-- Starts on new input. The first byte is always zero. -/
def start (input : List UInt8) (ending : Fault) : Reading Unit := do
  modify fun c => { c with input, ending, range := twoTo 32 - 1, code := 0 }
  if (← readByte) ≠ 0 then throw (.xz .data)
  readCode 4

/-- Widens the range if it has become small. -/
def widen : Reading Unit := do
  if (← get).range < twoTo 24 then
    readCode 1
    modify fun c => { c with range := c.range * 256 }

/-- Reads a bit by the odds at a place. -/
def readBit (place : Nat) : Reading Nat := do
  widen
  let c ← get
  let odds := c.odds.getD place 1024
  let bound := c.range / 2048 * odds
  let (bit, c) : Nat × Coder :=
    if c.code < bound then
      (0, { c with range := bound, odds := c.odds.setIfInBounds place (odds + (2048 - odds) / 32) })
    else
      (1, { c with
        range := c.range - bound, code := c.code - bound,
        odds := c.odds.setIfInBounds place (odds - odds / 32) })
  set c
  return bit

/-- Reads `n` bits, the highest first, after those of `v`, each by odds that hang on those before. -/
def readTree (place v : Nat) : (n : Nat) → Reading Nat
  | 0 => return v
  | n + 1 => do readTree place (2 * v + (← readBit (place + v))) n

/-- Reads a number of `n` bits, the highest first. -/
def readNumber (place n : Nat) : Reading Nat := return (← readTree place 1 n) - twoTo n

/-- Reads a number of `n` bits, the lowest first, after those of `v`. -/
def readLowNumber (place v : Nat) : (n : Nat) → Reading Nat
  | 0 => return 0
  | n + 1 => do
    let bit ← readBit (place + v)
    return bit + 2 * (← readLowNumber place (2 * v + bit) n)

/-- Reads `n` bits with even odds after those of `v`. -/
def readEven (v : Nat) : (n : Nat) → Reading Nat
  | 0 => return v
  | n + 1 => do
    widen
    let c ← get
    let half := c.range / 2
    if c.code < half then
      set { c with range := half }
      readEven (2 * v) n
    else
      set { c with range := half, code := c.code - half }
      readEven (2 * v + 1) n

/-- The byte so far back, less one. -/
def Coder.back (c : Coder) (distance : Nat) : UInt8 := c.output.getD (c.output.size - 1 - distance) 0

/-- How many bytes can be referred to. -/
def Coder.known (c : Coder) : Nat := c.output.size - c.start

/-- Reads the bits of a byte after those of `v`. Those of `likely` count as long as they agree. -/
def readLikely (place v : Nat) (likely : Nat) : (n : Nat) → Reading Nat
  | 0 => return v
  | n + 1 => do
    let expected := likely / twoTo n % 2
    let bit ← readBit (place + 256 * (1 + expected) + v)
    if bit = expected then readLikely place (2 * v + bit) likely n
    else readTree place (2 * v + bit) n

/-- Reads a byte. -/
def readLiteral : Reading Unit := do
  let c ← get
  let before := if c.known = 0 then 0 else (c.back 0).toNat
  let context := c.known % twoTo c.options.placeBits * twoTo c.options.byteBits +
    before / twoTo (8 - c.options.byteBits)
  let place := atBytes + 0x300 * context
  let v ←
    if c.history < 7 then readTree place 1 8
    else readLikely place 1 (c.back c.distances.1).toNat 8
  modify fun c => { c with
    output := c.output.push v.toUInt8,
    history := if c.history < 4 then 0 else if c.history < 10 then c.history - 3 else c.history - 6 }

/-- Reads a length. -/
def readLength (place placeState : Nat) : Reading Nat := do
  if (← readBit place) = 0 then return 2 + (← readNumber (place + 2 + 8 * placeState) 3)
  else if (← readBit (place + 1)) = 0 then return 10 + (← readNumber (place + 130 + 8 * placeState) 3)
  else return 18 + (← readNumber (place + 258) 8)

/-- Reads a new distance, less one, for a length. -/
def readDistance (length : Nat) : Reading Nat := do
  let slot ← readNumber (atSlot + 64 * (Nat.min length 5 - 2)) 6
  if slot < 4 then return slot
  let n := slot / 2 - 1
  let high := 2 + slot % 2
  if slot < 14 then return high * twoTo n + (← readLowNumber (atDistance + high * twoTo n - slot) 1 n)
  else
    let middle ← readEven high (n - 4)
    return 16 * middle + (← readLowNumber atAlign 1 4)

/-- The distance that ends the data. -/
def endDistance : Nat := twoTo 32 - 1

/-- Adds `n` bytes from so far back, less one. -/
def copyBack (distance : Nat) : (n : Nat) → Coder → Coder
  | 0, c => c
  | n + 1, c => copyBack distance n { c with output := c.output.push (c.back distance) }

/-- Adds bytes by the latest distance, up to `limit` in all. -/
def copyLatest (length limit : Nat) : Reading Unit := do
  let c ← get
  if c.known ≤ c.distances.1 || limit < c.output.size + length then throw (.xz .data)
  set (copyBack c.distances.1 length c)

/-- Reads a reference by a new distance. False stands for the end of the data. -/
def readNew (placeState limit : Nat) : Reading Bool := do
  let length ← readLength atLength placeState
  let distance ← readDistance length
  modify fun c =>
    let (a, b, d, _) := c.distances
    { c with history := if c.history < 7 then 7 else 10, distances := (distance, a, b, d) }
  if distance = endDistance then return false
  copyLatest length limit
  return true

/-- Reads a reference by a distance that has been used. -/
def readAgain (placeState limit : Nat) : Reading Unit := do
  let c ← get
  if c.known = 0 then throw (.xz .data)
  let recent := c.history < 7
  let (first, second, third, fourth) := c.distances
  if (← readBit (atFirst + c.history)) = 0 then
    if (← readBit (atLong + 16 * c.history + placeState)) = 0 then
      modify fun c => { c with history := if recent then 9 else 11 }
      copyLatest 1 limit
      return
  else if (← readBit (atSecond + c.history)) = 0 then
    modify fun c => { c with distances := (second, first, third, fourth) }
  else if (← readBit (atThird + c.history)) = 0 then
    modify fun c => { c with distances := (third, first, second, fourth) }
  else modify fun c => { c with distances := (fourth, first, second, third) }
  let length ← readLength atAgainLength placeState
  modify fun c => { c with history := if recent then 8 else 11 }
  copyLatest length limit

/-- Reads a symbol. False stands for the end of the data. -/
def readSymbol (limit : Nat) : Reading Bool := do
  let c ← get
  let placeState := c.known % twoTo c.options.symbolBits
  if (← readBit (atMatch + 16 * c.history + placeState)) = 0 then
    if limit ≤ c.output.size then throw (.xz .data)
    readLiteral
    return true
  else if (← readBit (atAgain + c.history)) = 0 then readNew placeState limit
  else
    readAgain placeState limit
    return true

/-- Reads symbols until there are `limit` bytes, `fuel` symbols at most. -/
def readUntil (limit : Nat) : (fuel : Nat) → Reading Unit
  | 0 => throw (.xz .data)
  | fuel + 1 => do
    if limit ≤ (← get).output.size then
      widen
    else if ← readSymbol limit then readUntil limit fuel
    else throw (.xz .data)

/-- Reads symbols until the end of the data, `fuel` at most. -/
def readToEnd (limit : Nat) : (fuel : Nat) → Reading Unit
  | 0 => throw (.xz .data)
  | fuel + 1 => do
    if ← readSymbol limit then readToEnd limit fuel
    else
      widen
      if (← get).code ≠ 0 then throw (.xz .data)

end Yardstick.Packed.Lzma
