import Yardstick.Text.Blank

/-!
# Lines

A text file is read with every line end turned into a line feed. Its lines are then cut at ten
different characters, among them the vertical tab and the line separator, and blank lines are
dropped.
-/

namespace Yardstick.Text

/-- Carriage returns, alone or before a line feed, become line feeds. -/
def unifyNewlines : List Char → List Char
  | [] => []
  | '\r' :: '\n' :: rest => '\n' :: unifyNewlines rest
  | c :: rest => (if c = '\r' then '\n' else c) :: unifyNewlines rest

/-- The characters that end a line. -/
def isLineEnd (c : Char) : Bool :=
  (0x0A ≤ c.toNat && c.toNat ≤ 0x0D) || (0x1C ≤ c.toNat && c.toNat ≤ 0x1E) ||
    c.toNat = 0x85 || c.toNat = 0x2028 || c.toNat = 0x2029

/-- Cuts after each line end; `line` holds the current line backwards. -/
def splitLinesFrom (line : List Char) : List Char → List (List Char)
  | [] => if line.isEmpty then [] else [line.reverse]
  | '\r' :: '\n' :: rest => line.reverse :: splitLinesFrom [] rest
  | c :: rest =>
    if isLineEnd c then line.reverse :: splitLinesFrom [] rest else splitLinesFrom (c :: line) rest

/-- The lines of a text without their ends; a line end at the very end opens no further line. -/
def splitLines (s : List Char) : List (List Char) := splitLinesFrom [] s

/-- The lines that are not blank. -/
def keptLines (s : List Char) : List (List Char) :=
  (splitLines s).filter fun line => !line.all isBlank

end Yardstick.Text
