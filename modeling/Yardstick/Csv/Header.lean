/-!
# Column names

A header cell without a name is named for its position. A name that is taken gets a number after a
point: named columns come first in this, so a column without a name gives way to one that has it.
-/

namespace Yardstick.Csv

/-- The name of a column without one. -/
def unnamed (position : Nat) : String := s!"Unnamed: {position}"

/-- How often each name has been asked for, the latest count first. -/
abbrev Counts := List (String × Nat)

def countOf (counts : Counts) (name : String) : Nat := (counts.lookup name).getD 0

/-- Numbers a name until it is free among `names`: the new name, and how often it was asked for.
`fuel` bounds the attempts. -/
def numbered (names : List String) (name : String) :
    (fuel : Nat) → (count : Nat) → Counts → String × Nat × Counts
  | 0, count, counts => (name, count, counts)
  | fuel + 1, count, counts =>
    let counts := (name, count + 1) :: counts
    let candidate := s!"{name}.{count}"
    if names.contains candidate then numbered names name fuel (count + 1) counts
    else
      match countOf counts candidate with
      | 0 => (candidate, 0, counts)
      | count => numbered names name fuel count counts

/-- Gives the column at a position a name of its own. -/
def claimName (state : List String × Counts) (position : Nat) : List String × Counts :=
  let (names, counts) := state
  let name := names.getD position ""
  let (fresh, count, counts) :=
    match countOf counts name with
    | 0 => (name, 0, counts)
    | count => numbered names name (names.length + 1) count counts
  (names.set position fresh, (fresh, count + 1) :: counts)

/-- The names of the columns of a header. -/
def columnNames (header : List String) : List String :=
  let positions := List.range header.length
  let bare := fun i => header.getD i "" = ""
  let names := header.mapIdx fun i name => if name = "" then unnamed i else name
  ((positions.filter (!bare ·) ++ positions.filter (bare ·)).foldl claimName (names, [])).1

end Yardstick.Csv
