import Yardstick.Table

/-!
# Frames

A frame has named columns of one length, in order. A column holds cells of one type where it can:
`Column.ofCells` finds the type, and keeps the cells as they are if there is none.
-/

namespace Yardstick

inductive Cell
  | missing
  | bool (b : Bool)
  | int (n : Int)
  | float (x : Float)
  | text (s : String)
  deriving Repr

/-- The cells of a column, by their type. -/
inductive Column
  | ints (cells : List Int)
  | bools (cells : List Bool)
  | floats (cells : List Float)
  | mixed (cells : List Cell)
  deriving Repr

namespace Column

def size : Column → Nat
  | ints cells => cells.length
  | bools cells => cells.length
  | floats cells => cells.length
  | mixed cells => cells.length

def cells : Column → List Cell
  | ints cells => cells.map .int
  | bools cells => cells.map .bool
  | floats cells => cells.map .float
  | mixed cells => cells

@[simp] theorem length_cells (c : Column) : c.cells.length = c.size := by
  cases c <;> simp [cells, size]

end Column

structure Frame where
  rows : Nat
  columns : Table Column
  aligned : ∀ e ∈ columns.entries, e.2.size = rows

namespace Frame

def names (f : Frame) : List String := f.columns.keys

/-- A frame without columns. -/
def ofRows (rows : Nat) : Frame := ⟨rows, .empty, by simp [Table.empty]⟩

/-- Replaces the column of a name, or adds one at the end. -/
def put (f : Frame) (name : String) (c : Column) (h : c.size = f.rows) : Frame where
  rows := f.rows
  columns := f.columns.put name c
  aligned e he := by
    rcases Table.mem_put he with rfl | he
    · exact h
    · exact f.aligned e he

/-- A frame of columns, if they have one length. -/
def ofColumns? : List (String × Column) → Option Frame
  | [] => some (ofRows 0)
  | (name, c) :: rest =>
    (rest.foldl (fun f e => f.bind fun f => if h : e.2.size = f.rows then some (f.put e.1 e.2 h) else none)
      (some ((ofRows c.size).put name c rfl)))

end Frame

end Yardstick
