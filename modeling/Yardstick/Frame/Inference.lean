import Yardstick.Frame.Basic
import Yardstick.Decimal.Binary

/-!
# The type of a column

Cells that are all booleans make a column of booleans, cells that are all integers one of integers, and
numbers with missing cells one of doubles, if one machine type holds the integers among them. All
others stay as they are.
-/

namespace Yardstick

namespace Cell

def notANumber : Float := 0.0 / 0.0

def isMissing : Cell → Bool
  | missing => true
  | _ => false

end Cell

namespace Column

/-- The cell as a double, if it is a number or missing. -/
def numberOf? : Cell → Option Float
  | .missing => some Cell.notANumber
  | .float x => some x
  | .int n => Decimal.ofInt? n
  | _ => none

/-- Whether signed, or else unsigned, 64-bit integers hold all of the integers. -/
def fitMachine (ns : List Int) : Bool :=
  let bound : Int := Decimal.twoTo 63
  ns.all (fun n => -bound ≤ n && n < bound) || ns.all (fun n => 0 ≤ n && n < 2 * bound)

/-- The integers among the cells. -/
def integers (cells : List Cell) : List Int :=
  cells.filterMap fun
    | .int n => some n
    | _ => none

/-- The cells as integers, if all are. -/
def ints? (cells : List Cell) : Option (List Int) :=
  cells.mapM fun
    | .int n => some n
    | _ => none

def bools? (cells : List Cell) : Option (List Bool) :=
  cells.mapM fun
    | .bool b => some b
    | _ => none

/-- The cells as doubles, if they are numbers and missing ones, not all missing, and one machine type
holds the integers. -/
def floats? (cells : List Cell) : Option (List Float) :=
  if cells.all Cell.isMissing || !fitMachine (integers cells) then none else cells.mapM numberOf?

/-- The column of some cells. One without cells counts as doubles. -/
def ofCells (cells : List Cell) : Column :=
  if cells.isEmpty then .floats []
  else
    match bools? cells, ints? cells, floats? cells with
    | some bs, _, _ => .bools bs
    | none, some ns, some _ => .ints ns
    | none, none, some xs => .floats xs
    | none, _, none => .mixed cells

end Column

end Yardstick
