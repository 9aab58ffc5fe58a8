import Yardstick.Decimal.Printer
import Yardstick.Frame.Basic
import Yardstick.Text.Digit

/-!
# Writing a file of values

One line for the header and one for each row. A cell is quoted only if it holds a comma, a quote or a
line feed, or if it is empty and alone in its row; a quote inside is written twice.
-/

namespace Yardstick.Csv

open Yardstick.Text

/-- A missing cell and not-a-number are written as nothing. -/
def fileStyle : Decimal.FloatStyle := { Decimal.plainStyle with notANumber := "" }

def cellText : Cell → List Char
  | .missing => []
  | .bool b => (if b then "True" else "False").toList
  | .int n => intText n
  | .float x => Decimal.floatChars fileStyle x
  | .text s => s.toList

def needsQuotes (s : List Char) : Bool := s.any fun c => c = ',' || c = '"' || c = '\n'

def doubleQuotes (s : List Char) : List Char := s.flatMap fun c => if c = '"' then ['"', '"'] else [c]

def writeCell (alone : Bool) (s : List Char) : List Char :=
  if needsQuotes s || (alone && s.isEmpty) then '"' :: doubleQuotes s ++ ['"'] else s

def writeRow (cells : List (List Char)) : List Char :=
  [','].intercalate (cells.map (writeCell (cells.length = 1))) ++ ['\n']

/-- The rows of columns of one length. -/
def cellRows (rows : Nat) (columns : List Column) : List (List Cell) :=
  match rows with
  | 0 => []
  | rows + 1 =>
    let cells := columns.map Column.cells
    go (rows + 1) cells
where
  go : Nat → List (List Cell) → List (List Cell)
    | 0, _ => []
    | n + 1, columns => columns.map (fun c => c.headD .missing) :: go n (columns.map List.tail)

/-- The file of a frame. -/
def write (f : Frame) : String :=
  let header := writeRow (f.names.map String.toList)
  let rows := (cellRows f.rows (f.columns.entries.map (·.2))).map fun row => writeRow (row.map cellText)
  String.ofList (header ++ rows.flatten)

end Yardstick.Csv
