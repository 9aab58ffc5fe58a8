import Yardstick.Decimal.Printer
import Yardstick.Json.Basic
import Yardstick.Text.Digit

/-!
# Writing JSON

One line per value: a blank follows each comma and colon, and of all characters only the quote, the
backslash and the controls below the space are escaped. So no written value holds a line feed.
-/

namespace Yardstick.Json

open Yardstick.Text

/-- A character within quotes. -/
def escapeChar (c : Char) : List Char :=
  if c = '"' || c = '\\' then ['\\', c]
  else if c = '\n' then ['\\', 'n']
  else if c = '\r' then ['\\', 'r']
  else if c = '\t' then ['\\', 't']
  else if c.toNat = 8 then ['\\', 'b']
  else if c.toNat = 12 then ['\\', 'f']
  else if c.toNat < 0x20 then '\\' :: 'u' :: hexDigits 4 c.toNat
  else [c]

def quoteChars (s : List Char) : List Char := '"' :: s.flatMap escapeChar ++ ['"']

/-- The words for doubles that are no numbers. -/
def numberStyle : Decimal.FloatStyle :=
  { Decimal.plainStyle with notANumber := "NaN", infinity := "Infinity" }

mutual

def print : Json → List Char
  | .null => "null".toList
  | .bool b => (if b then "true" else "false").toList
  | .int n => intText n
  | .float x => Decimal.floatChars numberStyle x
  | .str s => quoteChars s.toList
  | .arr items => '[' :: printItems items ++ [']']
  | .obj members => '\x7b' :: printMembers members ++ ['\x7d']

def printItems : List Json → List Char
  | [] => []
  | [v] => print v
  | v :: vs => print v ++ ',' :: ' ' :: printItems vs

def printMembers : List (String × Json) → List Char
  | [] => []
  | [(key, v)] => quoteChars key.toList ++ ':' :: ' ' :: print v
  | (key, v) :: ms => quoteChars key.toList ++ ':' :: ' ' :: print v ++ ',' :: ' ' :: printMembers ms

end

/-- The text of a value. -/
def render (v : Json) : String := String.ofList (print v)

end Yardstick.Json
