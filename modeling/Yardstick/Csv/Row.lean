/-!
# Rows of a file of values

A file is cut into rows of cells, cells at commas, rows at line ends. A cell that starts with a quote
runs to the closing quote, with two quotes for one inside, and what follows the closing quote up to
the comma belongs to it. Lines without a character, or with blanks only, are no rows; after one that a
carriage return ends, a comma at the start of the next line is passed over as a line feed is. Such
lines become rows after all, of the blanks in them, where text follows on blanks at the start of the
next line.

The first row is the header. The row after it may be longer or shorter; from then on a row must not
be longer than the one before, and shorter rows are filled up with empty cells.
-/

namespace Yardstick.Csv

/-- A cell as it stands in the file, one character for each byte. -/
abbrev Word := List Char

/-- Why a file cannot be cut into rows. -/
inductive Cause
  | longRow (expected line seen : Nat)
  | openQuote (line : Nat)
  deriving Repr, DecidableEq

def Cause.message : Cause → String
  | longRow expected line seen => s!"Expected {expected} fields in line {line}, saw {seen}\n"
  | openQuote line => s!"EOF inside string starting at row {line}"

/-- Where in a row the next character stands. -/
inductive Mode
  | rowStart
  /-- Nothing but blanks so far. -/
  | blanks
  | cellStart
  | cell
  | quoted
  /-- After a quote inside a quoted cell. -/
  | quoteSeen
  /-- After a carriage return that ended a row, of which a line feed is a part. -/
  | lineEnded
  /-- After a carriage return that ended a line that is no row. -/
  | lineSkipped
  deriving Repr, DecidableEq

/-- What has been read, the last row, cell and character first. -/
structure Scan where
  rows : List (List Word)
  row : List Word
  word : Word
  mode : Mode
  /-- What has been passed over since the last row or line feed, the last first. -/
  skipped : List Char
  /-- The lines that have ended. -/
  lines : Nat
  fault : Option Cause
  deriving Repr, DecidableEq

namespace Scan

def initial : Scan := ⟨[], [], [], .rowStart, [], 0, none⟩

def endCell (s : Scan) (next : Mode) : Scan :=
  { s with row := s.word.reverse :: s.row, word := [], mode := next }

/-- A row filled up with empty cells. -/
def fillUp (row : List Word) (width : Nat) : List Word :=
  row ++ List.replicate (width - row.length) []

/-- Ends a row that is complete. -/
def endRow (s : Scan) (next : Mode) : Scan :=
  let row := s.row.reverse
  let ended (rows : List (List Word)) : Scan :=
    { s with rows, row := [], mode := next, skipped := [], lines := s.lines + 1 }
  match s.rows with
  | above :: _ :: _ =>
    if above.length < row.length then
      { s with fault := some (.longRow above.length (s.lines + 1) row.length) }
    else ended (fillUp row above.length :: s.rows)
  | [above] => ended [fillUp row above.length, above]
  | [] => ended [row]

def push (s : Scan) (c : Char) (next : Mode) : Scan := { s with word := c :: s.word, mode := next }

def isBlank (c : Char) : Bool := c = ' ' || c = '\t'

/-- A character where a cell is open; `inside` treats all but commas and line ends. -/
def stepCell (s : Scan) (c : Char) (inside : Scan) : Scan :=
  if c = '\n' then (s.endCell .cellStart).endRow .rowStart
  else if c = '\r' then (s.endCell .cellStart).endRow .lineEnded
  else if c = ',' then s.endCell .cellStart
  else inside

/-- A character that starts a cell. -/
def stepCellStart (s : Scan) (c : Char) : Scan :=
  s.stepCell c (if c = '"' then { s with mode := .quoted } else s.push c .cell)

/-- A character in a line that has no text so far; `text` treats all but blanks and line ends. -/
def stepBlank (s : Scan) (c : Char) (text : Scan) : Scan :=
  if c = '\n' then { s with mode := .rowStart, skipped := [], lines := s.lines + 1 }
  else if c = '\r' then
    { s with mode := .lineSkipped, skipped := c :: s.skipped, lines := s.lines + 1 }
  else if isBlank c then { s with mode := .blanks, skipped := c :: s.skipped }
  else text

def stepRow (s : Scan) (c : Char) : Scan := s.stepBlank c (s.stepCellStart c)

/-- A character, but no text in a line of blanks. -/
def stepPlain (s : Scan) (c : Char) : Scan :=
  if s.fault.isSome then s
  else
    match s.mode with
    | .rowStart => s.stepRow c
    | .lineEnded => if c = '\n' then { s with mode := .rowStart } else s.stepRow c
    | .lineSkipped =>
      if c = '\n' then { s with mode := .rowStart, skipped := [] }
      else if c = ',' then { s with mode := .rowStart, skipped := c :: s.skipped }
      else s.stepRow c
    | .blanks => s.stepBlank c s
    | .cellStart => s.stepCellStart c
    | .cell => s.stepCell c (s.push c .cell)
    | .quoted => if c = '"' then { s with mode := .quoteSeen } else s.push c .quoted
    | .quoteSeen => s.stepCell c (s.push c (if c = '"' then .quoted else .cell))

/-- Reads what has been passed over as cells. -/
def readSkipped (s : Scan) : Scan :=
  s.skipped.reverse.foldl stepPlain { s with mode := .cellStart, skipped := [] }

/-- Opens a cell for the blanks that a line starts with. What has been passed over before is read, too,
a line at a time: where one ends, the next is at first passed over again. -/
def openCell (s : Scan) : Scan :=
  let opened := s.readSkipped
  if opened.mode = .blanks then
    if _ : s.readSkipped.skipped.length < s.skipped.length then s.readSkipped.openCell else opened
  else opened
termination_by s.skipped.length

def step (s : Scan) (c : Char) : Scan :=
  if s.mode = .blanks && !(isBlank c || c = '\n' || c = '\r') then s.openCell.stepPlain c
  else s.stepPlain c

/-- What is read when the file ends. -/
def finish (s : Scan) : Scan :=
  if s.fault.isSome then s
  else
    match s.mode with
    | .rowStart | .blanks | .lineEnded | .lineSkipped => s
    | .quoted => { s with fault := some (.openQuote s.lines) }
    | .cellStart | .cell | .quoteSeen => (s.endCell .cellStart).endRow .rowStart

end Scan

/-- The rows of a file up to a fault, if it has one. -/
structure Rows where
  rows : List (List Word)
  fault : Option Cause
  deriving Repr, DecidableEq

def readRows (s : List Char) : Rows :=
  let scan := (s.foldl Scan.step .initial).finish
  ⟨scan.rows.reverse, scan.fault⟩

end Yardstick.Csv
