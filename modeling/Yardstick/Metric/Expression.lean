import Yardstick.Metric.Basic

/-!
# Expressions

What a base metric computes from its column. A custom aggregation is a template with one placeholder,
which `substitute` replaces by the column as it stands.
-/

namespace Yardstick

/-- The expression of an aggregation over a column. -/
def Aggregation.expression (column : String) : Aggregation → String
  | count => "count(" ++ column ++ ")"
  | uniqueCount => "count(distinct " ++ column ++ ")"
  | sum => "sum(" ++ column ++ ")"
  | min => "min(" ++ column ++ ")"
  | max => "max(" ++ column ++ ")"
  | countWithValue => "sum(if(" ++ column ++ " > 0, 1, 0))"

/-- How often the placeholder stands in a template. -/
def placeholders : List Char → Nat
  | '%' :: 's' :: rest => placeholders rest + 1
  | _ :: rest => placeholders rest
  | [] => 0

/-- The text with its first placeholder replaced. -/
def replaceFirst (column : List Char) : List Char → List Char
  | '%' :: 's' :: rest => column ++ rest
  | c :: rest => c :: replaceFirst column rest
  | [] => []

/-- A custom aggregation of a column. -/
def substitute (template column : String) : Except Error String :=
  let count := placeholders template.toList
  if count = 1 then .ok (String.ofList (replaceFirst column.toList template.toList))
  else .error (.placeholders count template)

end Yardstick
