import Yardstick.Catalog
import Yardstick.Metric.Error

/-!
# Dimensions

A dimension is what a report is broken down by, such as a country. It is stored in a column, and has
labels that are keys into the catalogs.
-/

namespace Yardstick

structure Dimension where
  id : String
  module : String
  category : String
  table : Option String
  column : Option String
  /-- An expression that takes the place of table and column. -/
  sqlSegment : Option String
  labelKey : String
  pluralLabelKey : Option String
  deriving Repr, DecidableEq

/-- A text that is there and not empty. -/
def nonempty? (s : Option String) : Option String := s.filter (· != "")

namespace Dimension

/-- Where the dimension is stored, if that can be told. -/
def column? (d : Dimension) : Option String :=
  match nonempty? d.sqlSegment, nonempty? d.table, nonempty? d.column with
  | some segment, _, _ => some segment
  | none, some table, some column => some (table ++ "." ++ column)
  | none, _, _ => none

def columnExpression (d : Dimension) : Except Error String :=
  (d.column?).elim (.error (.noColumn d.id)) .ok

/-- The label for one. Without a text the key itself is the label. -/
def label (d : Dimension) (t : Translator) : String := t.textOr d.labelKey d.labelKey

/-- The label for many, or the one for one if there is no key of its own. -/
def pluralLabel (d : Dimension) (t : Translator) : String :=
  match nonempty? d.pluralLabelKey with
  | some key => t.textOr key key
  | none => d.label t

end Dimension

end Yardstick
