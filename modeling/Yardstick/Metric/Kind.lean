import Yardstick.Json.Shown

/-!
# Kinds of metrics

A base metric aggregates a column in one of six ways, a computed metric is one of two ratios. Both
kinds are given by their words; `Aggregation.ofText?` and `Formula.ofText?` read exactly the words
that `text` writes.
-/

namespace Yardstick

/-- How a base metric aggregates its column. -/
inductive Aggregation
  | count
  | uniqueCount
  | sum
  | min
  | max
  | countWithValue
  deriving Repr, DecidableEq

namespace Aggregation

def all : List Aggregation := [count, uniqueCount, sum, min, max, countWithValue]

def text : Aggregation → String
  | count => "count"
  | uniqueCount => "unique_count"
  | sum => "sum"
  | min => "min"
  | max => "max"
  | countWithValue => "count_with_numeric_value"

def ofText? (s : String) : Option Aggregation := all.find? fun a => a.text = s

theorem ofText?_text (a : Aggregation) : ofText? a.text = some a := by cases a <;> decide

/-- The aggregation that a value names. -/
def ofJson? : Json → Option Aggregation
  | .str s => ofText? s
  | _ => none

end Aggregation

/-- How a computed metric relates its two dependencies. -/
inductive Formula
  /-- The first divided by the second. -/
  | average
  /-- The first as a percentage of the second. -/
  | rate
  deriving Repr, DecidableEq

namespace Formula

def all : List Formula := [average, rate]

def text : Formula → String
  | average => "average"
  | rate => "rate"

def ofText? (s : String) : Option Formula := all.find? fun f => f.text = s

theorem ofText?_text (f : Formula) : ofText? f.text = some f := by cases f <;> decide

def ofJson? : Json → Option Formula
  | .str s => ofText? s
  | _ => none

end Formula

end Yardstick
