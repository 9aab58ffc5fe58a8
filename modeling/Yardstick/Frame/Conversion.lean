import Yardstick.Decimal.Reader
import Yardstick.Frame.Basic
import Yardstick.Json.Basic
import Yardstick.Metric.Error

/-!
# Numbers from values

Metric values are doubles. Integers are rounded to the nearest one, booleans are zero and one, and
texts are read as numbers. A missing cell of a column is not-a-number.
-/

namespace Yardstick

/-- The double of an integer. -/
def intToFloat (n : Int) : Except NumberFault Float :=
  (Decimal.ofInt? n).elim (.error .tooLarge) .ok

def boolToFloat (b : Bool) : Float := if b then 1.0 else 0.0

def textToFloat (s : String) : Except NumberFault Float :=
  (Decimal.readFloat? s.toList).elim (.error (.notNumeric s)) .ok

/-- The double of a value. -/
def Json.toFloat : Json → Except NumberFault Float
  | .bool b => .ok (boolToFloat b)
  | .int n => intToFloat n
  | .float x => .ok x
  | .str s => textToFloat s
  | v => .error (.wrongType v.kindWord)

def Cell.toFloat : Cell → Except NumberFault Float
  | .missing => .ok (0.0 / 0.0)
  | .bool b => .ok (boolToFloat b)
  | .int n => intToFloat n
  | .float x => .ok x
  | .text s => textToFloat s

/-- All cells as doubles, or the fault of the first that is none. -/
def floatsOf : List Cell → Except NumberFault (List Float)
  | [] => .ok []
  | c :: cells =>
    match c.toFloat with
    | .error e => .error e
    | .ok x => (floatsOf cells).map (x :: ·)

theorem length_floatsOf {cells : List Cell} {xs : List Float} (h : floatsOf cells = .ok xs) :
    xs.length = cells.length := by
  induction cells generalizing xs with
  | nil => cases h; rfl
  | cons c cells ih =>
    rw [floatsOf] at h
    split at h
    · cases h
    · cases hr : floatsOf cells with
      | error e => rw [hr] at h; cases h
      | ok ys =>
        rw [hr] at h
        cases h
        simp [ih hr]

/-- The cells of a column as doubles. -/
def Column.toFloats (c : Column) : Except NumberFault (List Float) := floatsOf c.cells

theorem Column.length_toFloats {c : Column} {xs : List Float} (h : c.toFloats = .ok xs) :
    xs.length = c.size :=
  (length_floatsOf h).trans c.length_cells

end Yardstick
