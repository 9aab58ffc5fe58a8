import Yardstick.Csv.Column
import Yardstick.Csv.Header
import Yardstick.Csv.Row

/-!
# Reading a file of values

A file of values is a frame: the header names the columns, the other rows are its rows. If the first
of them is longer than the header, the cells too many are taken from the left of every row and
dropped.
-/

namespace Yardstick.Csv

open Yardstick.Text

inductive Fault
  | rows (c : Cause)
  | noColumns
  | encoding (f : Utf8.Fault)
  deriving Repr, DecidableEq

def Fault.message : Fault → String
  | rows c => s!"Error tokenizing data. C error: {c.message}"
  | noColumns => "No columns to parse from file"
  | encoding f => f.message

/-- The bytes of a file as characters, without a byte order mark. -/
def byteChars (bytes : ByteArray) : List Char :=
  let cs := (Utf8.byteList bytes).map Char.ofNat
  if cs.take 3 = [Char.ofNat 0xEF, Char.ofNat 0xBB, Char.ofNat 0xBF] then cs.drop 3 else cs

/-- The cells of the rows at a position. -/
def wordsAt (rows : List (List Word)) (position : Nat) : Words :=
  rows.map fun row => row.getD position []

/-- The column at a position. -/
def columnAt (rows : List (List Word)) (position : Nat) : Except Utf8.Fault Column :=
  (wordsAt rows position).column

/-- The columns of a header and rows. The dropped cells, too, have to be readable. -/
def columnsOf (header : List Word) (rows : List (List Word)) : Except Utf8.Fault (List (String × Column)) := do
  let names ← header.mapM decodeWord
  let dropped := (rows.head?.elim 0 List.length) - header.length
  let columns ← (List.range (dropped + header.length)).mapM fun i => columnAt rows i
  return (columnNames names).zip (columns.drop dropped)

/-- The columns of a file. A fault beyond the first two rows is found after one in the header. -/
def readColumns (bytes : ByteArray) : Except Fault (List (String × Column)) :=
  let read := readRows (byteChars bytes)
  let fault : Except Fault Unit := read.fault.elim (.ok ()) (.error ∘ .rows)
  match read.rows with
  | [] => do
    fault
    throw .noColumns
  | header :: rows => do
    if rows.isEmpty then fault
    let _ ← (header.mapM decodeWord).mapError Fault.encoding
    fault
    (columnsOf header rows).mapError .encoding

/-- The frame of a file. -/
def readFrame (bytes : ByteArray) : Except Fault Frame :=
  match readColumns bytes with
  | .error e => .error e
  | .ok columns => (Frame.ofColumns? columns).elim (.error .noColumns) .ok

end Yardstick.Csv
