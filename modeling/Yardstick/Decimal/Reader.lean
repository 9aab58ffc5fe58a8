import Yardstick.Decimal.Binary
import Yardstick.Text.Blank
import Yardstick.Text.Digit

/-!
# Reading doubles

A double is read from decimal digits with a point and an exponent, or from a word for an infinity or
not-a-number. Blanks may stand around it, digits may be of any script, and single underscores may
stand between digits.
-/

namespace Yardstick.Decimal

open Yardstick.Text

/-- A run of digits with single underscores between them: the digits' number, how many they are, and
the rest. -/
def readDigits : (afterDigit : Bool) → (value count : Nat) → List Char → Nat × Nat × List Char
  | _, v, n, [] => (v, n, [])
  | afterDigit, v, n, c :: rest =>
    match asciiDigit? c with
    | some d => readDigits true (10 * v + d) (n + 1) rest
    | none =>
      if c = '_' && afterDigit then
        match rest with
        | d :: rest' =>
          match asciiDigit? d with
          | some k => readDigits true (10 * v + k) (n + 1) rest'
          | none => (v, n, c :: rest)
        | [] => (v, n, [c])
      else (v, n, c :: rest)

/-- A sign, if there is one. -/
def readSign : List Char → Bool × List Char
  | '-' :: rest => (true, rest)
  | '+' :: rest => (false, rest)
  | rest => (false, rest)

/-- The digits after a point: the whole mantissa, how many digits follow the point, and the rest. -/
def readFraction (value : Nat) : List Char → Nat × Nat × List Char
  | '.' :: rest =>
    match rest with
    | [] => (value, 0, [])
    | c :: _ => if (asciiDigit? c).isSome then readDigits false value 0 rest else (value, 0, rest)
  | rest => (value, 0, rest)

/-- An exponent, if one stands there, else zero. -/
def readExponent : List Char → Option (Int × List Char)
  | [] => some (0, [])
  | c :: rest =>
    if c = 'e' || c = 'E' then
      let (negative, rest) := readSign rest
      let (v, n, rest) := readDigits false 0 0 rest
      if n = 0 then none else some (if negative then -(v : Int) else v, rest)
    else some (0, c :: rest)

/-- A number of decimal digits without blanks around it. -/
def readDecimal (s : List Char) : Option Float :=
  let (negative, s) := readSign s
  let (whole, n, s) := readDigits false 0 0 s
  let (mantissa, k, s) := readFraction whole s
  if n = 0 && k = 0 then none
  else
    match readExponent s with
    | some (e, []) => some (ofDecimal negative mantissa (e - k))
    | _ => none

/-- The spelled-out doubles, in any case and with a sign. -/
def readWord (s : List Char) : Option Float :=
  let (negative, s) := readSign s
  let word := String.ofList (s.map Char.toLower)
  if word = "inf" || word = "infinity" then some (withSign negative infinityBits)
  else if word = "nan" then some (0.0 / 0.0)
  else none

/-- One character of number text: foreign digits become ASCII ones and foreign blanks spaces. -/
def plainChar (c : Char) : Char :=
  if c.toNat < 127 then c
  else if isForeignSpace c then ' '
  else
    match digit? c with
    | some d => Char.ofNat (48 + d)
    | none => c

/-- The double that a text denotes. -/
def readFloat? (s : List Char) : Option Float :=
  let s := trim isAsciiSpace (s.map plainChar)
  match readDecimal s with
  | some x => some x
  | none => readWord s

end Yardstick.Decimal
