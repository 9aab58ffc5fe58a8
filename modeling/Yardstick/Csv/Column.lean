import Yardstick.Csv.Row
import Yardstick.Decimal.Binary
import Yardstick.Frame.Basic
import Yardstick.Text.Blank
import Yardstick.Text.Digit
import Yardstick.Text.Utf8

/-!
# Typed columns from cells

The cells of a column are read as integers of a machine type, as integers of any size, as doubles, as
booleans or as texts, whichever comes first. Some words stand for a missing cell in each of them.

Readers of such files differ in three things, of which one way is taken here: a long file is read in one
piece, a double is the one nearest to its word however many digits that has, and a zero character does not
end a word.
-/

namespace Yardstick.Csv

open Yardstick.Text

/-- The words for a missing cell. -/
def missingWords : List String :=
  ["", "NA", "N/A", "#N/A", "NaN", "nan", "-NaN", "-nan", "null", "NULL", "None", "<NA>", "n/a", "#NA",
   "#N/A N/A", "1.#IND", "1.#QNAN", "-1.#IND", "-1.#QNAN"]

def isMissing (w : Word) : Bool := missingWords.any fun m => m.toList = w

/-- A sign and the rest. -/
def splitSign : List Char → Bool × List Char
  | '-' :: rest => (true, rest)
  | '+' :: rest => (false, rest)
  | rest => (false, rest)

def digitsValue (ds : List Char) : Nat := ds.foldl (fun n c => 10 * n + (c.toNat - 48)) 0

/-- What a word is as an integer of a bounded type. -/
inductive Reading
  | value (n : Int)
  | overflow
  | invalid
  deriving Repr, DecidableEq

/-- Reads an integer between two bounds. One beyond them overflows only where nothing follows it. -/
def readBounded (lo hi : Int) (w : Word) : Reading :=
  let (negative, s) := splitSign (w.dropWhile isAsciiSpace)
  let (ds, rest) := s.span Char.isDigit
  let n : Int := if negative then -(digitsValue ds : Int) else digitsValue ds
  if ds.isEmpty then .invalid
  else if n < lo || hi < n then (if rest.isEmpty then .overflow else .invalid)
  else if rest.all isAsciiSpace then .value n
  else .invalid

def leastSigned : Int := -(Decimal.twoTo 63 : Int)

def readSigned (w : Word) : Reading := readBounded leastSigned (Decimal.twoTo 63 - 1) w

/-- An unsigned integer; of a negative one only the sign is looked at. -/
def readUnsigned (w : Word) : Reading :=
  match w.dropWhile isAsciiSpace with
  | '-' :: _ => .value (-1)
  | _ => readBounded 0 (Decimal.twoTo 64 - 1) w

/-- All values, or else the first reading that is none. -/
def readAll (read : Word → Reading) : List Word → Except Reading (List Int)
  | [] => .ok []
  | w :: ws =>
    match read w with
    | .value n => (readAll read ws).map (n :: ·)
    | r => .error r

/-- Digits with single underscores between them. -/
def plainDigits? : List Char → Option (List Char)
  | [] => none
  | [c] => if c.isDigit then some [c] else none
  | c :: d :: rest =>
    if !c.isDigit then none
    else if d = '_' then (plainDigits? rest).map (c :: ·)
    else (plainDigits? (d :: rest)).map (c :: ·)

/-- An integer of any size, up to a number of digits. -/
def readBig? (w : Word) : Option Int :=
  let (negative, s) := splitSign (trim isAsciiSpace w)
  match plainDigits? s with
  | some ds =>
    if 4300 < ds.length then none
    else some (if negative then -(digitsValue ds : Int) else digitsValue ds)
  | none => none

/-- The exponent of ten after the digits, if one stands there, else zero, and the rest. -/
def readPower? : List Char → Option (Int × List Char)
  | [] => some (0, [])
  | c :: rest =>
    if c = 'e' || c = 'E' then
      let (negative, s) := splitSign rest
      let (ds, s) := s.span Char.isDigit
      if ds.isEmpty then none
      else some (if negative then -(digitsValue ds : Int) else digitsValue ds, s)
    else some (0, c :: rest)

/-- The double nearest to a number in decimal notation. -/
def readPlain? (w : Word) : Option Float :=
  let (negative, s) := splitSign (w.dropWhile isAsciiSpace)
  let (whole, s) := s.span Char.isDigit
  let (part, s) := match s with
    | '.' :: rest => rest.span Char.isDigit
    | _ => ([], s)
  match readPower? s with
  | some (e, rest) =>
    if (whole ++ part).isEmpty || !rest.all isAsciiSpace then none
    else some (Decimal.ofDecimal negative (digitsValue (whole ++ part)) (e - part.length))
  | none => none

/-- The spelled-out infinities. -/
def readInfinity? (w : Word) : Option Float :=
  let (negative, s) := splitSign w
  let word := String.ofList (s.map Char.toLower)
  if word = "inf" || word = "infinity" then some (Decimal.withSign negative Decimal.infinityBits) else none

def readDouble? (w : Word) : Option Float := (readPlain? w).or (readInfinity? w)

def readBool? (w : Word) : Option Bool :=
  let word := String.ofList (w.map Char.toLower)
  if word = "true" then some true else if word = "false" then some false else none

/-- The text of a cell. -/
def decodeWord (w : Word) : Except Utf8.Fault String :=
  Utf8.decode ⟨(w.map fun c => c.toNat.toUInt8).toArray⟩

/-- What a column is made of: for each row the cell as it stands. -/
abbrev Words := List Word

/-- The words that are not missing. -/
def Words.present (ws : Words) : List Word := ws.filter (!isMissing ·)

def Words.isFull (ws : Words) : Bool := ws.all (!isMissing ·)

/-- The cells of the words that are there, put in their rows. -/
def Words.spread {α : Type} (missing : α) (cell : Word → Option α) (ws : Words) : List α :=
  ws.map fun w => if isMissing w then missing else (cell w).getD missing

def Words.floats (read : Word → Option Float) (ws : Words) : Column :=
  .floats (ws.spread (0.0 / 0.0) read)

def Words.cells (read : Word → Option Cell) (ws : Words) : Column :=
  .mixed (ws.spread .missing read)

/-- An integer between missing cells is a double. -/
def signedFloat (w : Word) : Option Float :=
  match readSigned w with
  | .value n => Decimal.ofInt? n
  | _ => none

/-- All words as texts, also those for a missing cell. -/
def Words.plainTexts (ws : Words) : Except Utf8.Fault Column :=
  (ws.mapM fun w => (decodeWord w).map Cell.text).map Column.mixed

def Words.texts (ws : Words) : Except Utf8.Fault Column :=
  (ws.mapM fun w => if isMissing w then .ok .missing else (decodeWord w).map Cell.text).map Column.mixed

/-- Integers of any size if all are, else all words as they stand. -/
def Words.bigInts (ws : Words) : Except Utf8.Fault Column :=
  if ws.present.all fun w => (readBig? w).isSome then
    .ok (ws.cells fun w => (readBig? w).map Cell.int)
  else ws.plainTexts

/-- Doubles, booleans or texts. -/
def Words.noInts (ws : Words) : Except Utf8.Fault Column :=
  if ws.present.all fun w => (readDouble? w).isSome then .ok (ws.floats readDouble?)
  else if ws.present.all fun w => (readBool? w).isSome then
    if ws.isFull then .ok (.bools (ws.present.filterMap readBool?))
    else .ok (ws.cells fun w => (readBool? w).map Cell.bool)
  else ws.texts

/-- Integers of which one is beyond the signed ones. Where an unsigned one stands with a negative one or
a missing cell, no type holds them and all words stay as they are. -/
def Words.largeInts (ws : Words) : Except Utf8.Fault Column :=
  match readAll readUnsigned ws.present with
  | .error .overflow => ws.bigInts
  | .error _ => ws.noInts
  | .ok ns =>
    let large := ns.any fun n => (Decimal.twoTo 63 : Int) ≤ n
    let negative := ns.any fun n => n < 0
    if large && (negative || !ws.isFull) then ws.plainTexts
    else if negative then ws.bigInts
    else .ok (.ints ns)

/-- The column of some words, which are all looked at together. -/
def Words.column (ws : Words) : Except Utf8.Fault Column :=
  if ws.isEmpty then .ok (.mixed [])
  else
    match readAll readSigned ws.present with
    | .ok ns => .ok (if ws.isFull then .ints ns else ws.floats signedFloat)
    | .error .overflow => ws.largeInts
    | .error _ => ws.noInts

end Yardstick.Csv
