import Yardstick.Packed.Bits

/-!
# Prefix codes

A prefix code is given by the length of each symbol's code word. Shorter words come before longer
ones, and of one length the words follow the symbols. A word is read one bit at a time.
-/

namespace Yardstick.Packed

structure PrefixCode where
  /-- How many words there are of each length, from one bit on. -/
  counts : List Nat
  /-- The symbols in the order of their words. -/
  symbols : List Nat
  deriving Repr, DecidableEq

namespace PrefixCode

/-- The code with so many bits for the word of each symbol; a symbol without bits has none. -/
def ofLengths (lengths : List Nat) : PrefixCode :=
  let longest := lengths.foldl Nat.max 1
  let ofLength (n : Nat) : List Nat := (lengths.zipIdx.filter (·.1 = n)).map (·.2)
  let sizes := (List.range longest).map (· + 1)
  ⟨sizes.map fun n => (ofLength n).length, sizes.flatMap ofLength⟩

/-- How many words of the greatest length are left: none of a complete code, and less than none where
there are too many words. -/
def spare (c : PrefixCode) : Int := c.counts.foldl (fun left n => 2 * left - Int.ofNat n) 1

/-- A code without spare words, or with one word of one bit, or without a word. -/
def isUsable (c : PrefixCode) : Bool := c.spare = 0 || (0 < c.spare && c.counts.length = 1)

/-- Reads the rest of a word after the bits of `word`, of which the words from `first` on are still to
come. There may be no such word. -/
def readFrom (word first : Nat) :
    (counts symbols : List Nat) → List Bool → Except Fault (Option Nat × List Bool)
  | [], _, bits => .ok (none, bits)
  | _ :: _, _, [] => .error .truncated
  | n :: counts, symbols, b :: bits =>
    let word := 2 * word + b.toNat
    let first := 2 * first
    if word < first + n then .ok (symbols[word - first]?, bits)
    else readFrom word (first + n) counts (symbols.drop n) bits

/-- Reads the symbol of a word. -/
def read (c : PrefixCode) (bits : List Bool) : Except Fault (Option Nat × List Bool) :=
  readFrom 0 0 c.counts c.symbols bits

end PrefixCode

end Yardstick.Packed
