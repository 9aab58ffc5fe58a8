import Yardstick.Decimal.Binary
import Yardstick.Json.Basic
import Yardstick.Text.Digit

/-!
# Reading JSON

A text is read from left to right. Where it stops being JSON, the reader notes why and how many
characters were left, and `parse` turns that into a line, a column and an offset. Besides the
standard's numbers the words `NaN`, `Infinity` and `-Infinity` are read, and integers are exact.
-/

namespace Yardstick.Json

open Yardstick.Text

/-- Why a text is not JSON. -/
inductive Cause
  | byteOrderMark
  | noValue
  | noPropertyName
  | noColon
  | noComma
  | extraData
  | unterminated
  | controlCharacter
  | badEscape
  | badUnicodeEscape
  deriving Repr, DecidableEq

def Cause.text : Cause → String
  | .byteOrderMark => "Unexpected UTF-8 BOM (decode using utf-8-sig)"
  | .noValue => "Expecting value"
  | .noPropertyName => "Expecting property name enclosed in double quotes"
  | .noColon => "Expecting ':' delimiter"
  | .noComma => "Expecting ',' delimiter"
  | .extraData => "Extra data"
  | .unterminated => "Unterminated string starting at"
  | .controlCharacter => "Invalid control character at"
  | .badEscape => "Invalid \\escape"
  | .badUnicodeEscape => "Invalid \\uXXXX escape"

/-- Where reading stops: for a cause with so many characters left, or at an integer of too many
digits. -/
inductive Stop
  | malformed (cause : Cause) (left : Nat)
  | hugeInteger (digits : Nat)
  deriving Repr, DecidableEq

/-- A place in a text. Lines and columns count from one, the offset from zero. -/
structure Position where
  line : Nat
  column : Nat
  offset : Nat
  deriving Repr, DecidableEq

/-- Why a text could not be read as JSON. -/
inductive Fault
  | malformed (cause : Cause) (position : Position)
  | hugeInteger (digits : Nat)
  deriving Repr, DecidableEq

/-- An integer may have this many digits. -/
def digitLimit : Nat := 4300

def hugeIntegerMessage (digits : Nat) : String :=
  s!"Exceeds the limit ({digitLimit} digits) for integer string conversion: value has {digits} " ++
    "digits; use sys.set_int_max_str_digits() to increase the limit"

def Fault.message : Fault → String
  | .malformed cause p => s!"{cause.text}: line {p.line} column {p.column} (char {p.offset})"
  | .hugeInteger digits => hugeIntegerMessage digits

/-- The position of the character after `before`. -/
def positionAfter (before : List Char) : Position :=
  let line := before.count '\n' + 1
  let column := (before.reverse.takeWhile (· != '\n')).length + 1
  ⟨line, column, before.length⟩

def Stop.locate (text : List Char) : Stop → Fault
  | .malformed cause left => .malformed cause (positionAfter (text.take (text.length - left)))
  | .hugeInteger digits => .hugeInteger digits

/-- A value read, and the text after it. -/
abbrev Reading (α : Type) := Except Stop (α × List Char)

def isSpace (c : Char) : Bool := c = ' ' || c = '\t' || c = '\n' || c = '\r'

def skipSpace (s : List Char) : List Char := s.dropWhile isSpace

/-- The letters that stand for a character after a backslash. -/
def simpleEscape? (c : Char) : Option Char :=
  if c = '"' || c = '\\' || c = '/' then some c
  else if c = 'b' then some (Char.ofNat 8)
  else if c = 'f' then some (Char.ofNat 12)
  else if c = 'n' then some '\n'
  else if c = 'r' then some '\r'
  else if c = 't' then some '\t'
  else none

/-- The value of four hexadecimal digits, after which the text must go on. -/
def readUnit (s : List Char) : Reading Nat :=
  match s with
  | a :: b :: c :: d :: e :: rest =>
    match hexValue? a, hexValue? b, hexValue? c, hexValue? d with
    | some a, some b, some c, some d => .ok (((a * 16 + b) * 16 + c) * 16 + d, e :: rest)
    | _, _, _, _ => .error (.malformed .badUnicodeEscape (s.length + 1))
  | _ => .error (.malformed .badUnicodeEscape (s.length + 1))

def isHighUnit (n : Nat) : Bool := 0xD800 ≤ n && n ≤ 0xDBFF

def isLowUnit (n : Nat) : Bool := 0xDC00 ≤ n && n ≤ 0xDFFF

/-- The character of a unit. One that is half of a pair has none of its own. -/
def unitChar (n : Nat) : Char := if isHighUnit n || isLowUnit n then Char.ofNat 0xFFFD else Char.ofNat n

/-- A character given by its number. A character beyond `0xFFFF` is given as a pair of units. -/
def readNumbered (s : List Char) : Reading Char :=
  match readUnit s with
  | .error e => .error e
  | .ok (high, rest) =>
    match isHighUnit high, rest with
    | true, '\\' :: 'u' :: rest' =>
      if (rest'.drop 4).isEmpty then .ok (unitChar high, rest)
      else
        match readUnit rest' with
        | .error e => .error e
        | .ok (low, rest'') =>
          if isLowUnit low then
            .ok (Char.ofNat (0x10000 + (high - 0xD800) * 0x400 + (low - 0xDC00)), rest'')
          else .ok (unitChar high, rest)
    | _, _ => .ok (unitChar high, rest)

/-- The fault of a string without an end; `start` is the text after its opening quote. -/
def unterminated {α : Type} (start : List Char) : Reading α :=
  .error (.malformed .unterminated (start.length + 1))

/-- The character that an escape stands for, after its backslash. -/
def readEscape (start : List Char) : List Char → Reading Char
  | [] => unterminated start
  | c :: rest =>
    if c = 'u' then readNumbered rest
    else
      match simpleEscape? c with
      | some d => .ok (d, rest)
      | none => .error (.malformed .badEscape (rest.length + 2))

/-- The characters up to the closing quote. -/
def readChars (start : List Char) : (fuel : Nat) → List Char → Reading (List Char)
  | 0, _ => unterminated start
  | _ + 1, [] => unterminated start
  | fuel + 1, c :: rest =>
    if c = '"' then .ok ([], rest)
    else if c = '\\' then
      match readEscape start rest with
      | .error e => .error e
      | .ok (d, rest) => (readChars start fuel rest).map fun (cs, s) => (d :: cs, s)
    else if c.toNat < 0x20 then .error (.malformed .controlCharacter (rest.length + 1))
    else (readChars start fuel rest).map fun (cs, s) => (c :: cs, s)

/-- The string after its opening quote. -/
def readString (fuel : Nat) (s : List Char) : Reading String :=
  (readChars s fuel s).map fun (cs, rest) => (String.ofList cs, rest)

def digitRun (s : List Char) : List Char × List Char := s.span Char.isDigit

def digitsValue (ds : List Char) : Nat := ds.foldl (fun n c => 10 * n + (c.toNat - 48)) 0

/-- The digits after a point, if there are some. -/
def readFraction (s : List Char) : Option (List Char × List Char) :=
  match s with
  | '.' :: rest => if (digitRun rest).1.isEmpty then none else some (digitRun rest)
  | _ => none

/-- An exponent with at least one digit. -/
def readExponent (s : List Char) : Option (Int × List Char) :=
  match s with
  | [] => none
  | c :: rest =>
    if c = 'e' || c = 'E' then
      let (negative, rest) :=
        match rest with
        | '-' :: r => (true, r)
        | '+' :: r => (false, r)
        | r => (false, r)
      let (ds, rest) := digitRun rest
      if ds.isEmpty then none
      else some (if negative then -(digitsValue ds : Int) else digitsValue ds, rest)
    else none

/-- The whole part of a number: zero alone, or digits of which the first is not zero. -/
def readWhole (s : List Char) : Option (List Char × List Char) :=
  match s with
  | '0' :: rest => some (['0'], rest)
  | _ => if (digitRun s).1.isEmpty then none else some (digitRun s)

/-- A number after its sign; `start` is the text with the sign. -/
def readNumber (start : List Char) (negative : Bool) (s : List Char) : Reading Json :=
  match readWhole s with
  | none => .error (.malformed .noValue start.length)
  | some (whole, rest) =>
    match readFraction rest, readExponent ((readFraction rest).elim rest (·.2)) with
    | none, none =>
      if digitLimit < whole.length then .error (.hugeInteger whole.length)
      else .ok (.int (if negative then -(digitsValue whole : Int) else digitsValue whole), rest)
    | none, some (e, rest) => .ok (.float (Decimal.ofDecimal negative (digitsValue whole) e), rest)
    | some (part, rest), none =>
      .ok (.float (Decimal.ofDecimal negative (digitsValue (whole ++ part)) (-(part.length : Int))), rest)
    | some (part, _), some (e, rest) =>
      .ok (.float (Decimal.ofDecimal negative (digitsValue (whole ++ part)) (e - part.length)), rest)

/-- The words that are values. -/
def words : List (String × Json) :=
  [("null", .null), ("true", .bool true), ("false", .bool false), ("NaN", .float (0.0 / 0.0)),
   ("Infinity", .float (Decimal.withSign false Decimal.infinityBits)),
   ("-Infinity", .float (Decimal.withSign true Decimal.infinityBits))]

/-- A word or a number. -/
def readScalar (s : List Char) : Reading Json :=
  match words.find? fun (w, _) => w.toList.isPrefixOf s with
  | some (w, v) => .ok (v, s.drop w.toList.length)
  | none =>
    match s with
    | '-' :: rest => readNumber s true rest
    | _ => readNumber s false s

mutual

/-- A value; two units of fuel for each character are enough. -/
def readValue : (fuel : Nat) → List Char → Reading Json
  | 0, s => .error (.malformed .noValue s.length)
  | fuel + 1, s =>
    match s with
    | [] => .error (.malformed .noValue 0)
    | c :: rest =>
      if c = '"' then (readString (fuel + 1) rest).map fun (t, s) => (.str t, s)
      else if c = '[' then
        match skipSpace rest with
        | ']' :: rest => .ok (.arr [], rest)
        | s => (readItems fuel s).map fun (vs, s) => (.arr vs, s)
      else if c = '\x7b' then
        match skipSpace rest with
        | '\x7d' :: rest => .ok (.obj [], rest)
        | s => (readMembers fuel s).map fun (ms, s) => (.ofMembers ms, s)
      else readScalar (c :: rest)

/-- The items of a list that is not empty, up to its bracket. -/
def readItems : (fuel : Nat) → List Char → Reading (List Json)
  | 0, s => .error (.malformed .noValue s.length)
  | fuel + 1, s =>
    match readValue fuel s with
    | .error e => .error e
    | .ok (v, s) =>
      match skipSpace s with
      | ']' :: rest => .ok ([v], rest)
      | ',' :: rest => (readItems fuel (skipSpace rest)).map fun (vs, s) => (v :: vs, s)
      | s => .error (.malformed .noComma s.length)

/-- The members of an object that is not empty, up to its brace. -/
def readMembers : (fuel : Nat) → List Char → Reading (List (String × Json))
  | 0, s => .error (.malformed .noValue s.length)
  | fuel + 1, s =>
    match s with
    | '"' :: rest =>
      match readString (fuel + 1) rest with
      | .error e => .error e
      | .ok (key, s) =>
        match skipSpace s with
        | ':' :: rest =>
          match readValue fuel (skipSpace rest) with
          | .error e => .error e
          | .ok (v, s) =>
            match skipSpace s with
            | '\x7d' :: rest => .ok ([(key, v)], rest)
            | ',' :: rest =>
              (readMembers fuel (skipSpace rest)).map fun (ms, s) => ((key, v) :: ms, s)
            | s => .error (.malformed .noComma s.length)
        | s => .error (.malformed .noColon s.length)
    | s => .error (.malformed .noPropertyName s.length)

end

/-- A value with blanks around it and nothing else. -/
def readDocument (s : List Char) : Except Stop Json :=
  if s.head? = some (Char.ofNat 0xFEFF) then .error (.malformed .byteOrderMark s.length)
  else
    match readValue (2 * s.length + 2) (skipSpace s) with
    | .error e => .error e
    | .ok (v, rest) =>
      if (skipSpace rest).isEmpty then .ok v
      else .error (.malformed .extraData (skipSpace rest).length)

/-- The value of a text. -/
def parse (text : String) : Except Fault Json :=
  (readDocument text.toList).mapError (Stop.locate text.toList)

end Yardstick.Json
