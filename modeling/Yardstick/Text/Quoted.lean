import Yardstick.Text.Digit
import Yardstick.Text.Printable

/-!
# Quoted text

Text as messages quote it: within single quotes, or within double quotes when it holds a single
quote and no double one. The quote in use, the backslash and what cannot be printed are escaped.
-/

namespace Yardstick.Text

/-- The shortest escape of a character by its code point. -/
def codeEscape (c : Char) : List Char :=
  let n := c.toNat
  if n ≤ 0xFF then '\\' :: 'x' :: hexDigits 2 n
  else if n ≤ 0xFFFF then '\\' :: 'u' :: hexDigits 4 n
  else '\\' :: 'U' :: hexDigits 8 n

/-- One character between quotes. -/
def escapeChar (quote : Char) (c : Char) : List Char :=
  if c = quote || c = '\\' then ['\\', c]
  else if c = '\n' then ['\\', 'n']
  else if c = '\r' then ['\\', 'r']
  else if c = '\t' then ['\\', 't']
  else if isPrintable c then [c]
  else codeEscape c

/-- Single quotes, unless the text holds one and no double quote. -/
def quoteMark (s : List Char) : Char :=
  if s.contains '\'' && !s.contains '"' then '"' else '\''

def quoteChars (s : List Char) : List Char :=
  let q := quoteMark s
  q :: s.flatMap (escapeChar q) ++ [q]

/-- Quoted text. -/
def quote (s : String) : String := String.ofList (quoteChars s.toList)

/-- Quoted text with every character outside ASCII escaped. -/
def quoteAscii (s : String) : String :=
  String.ofList ((quoteChars s.toList).flatMap fun c => if c.toNat < 128 then [c] else codeEscape c)

end Yardstick.Text
