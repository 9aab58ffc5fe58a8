import Yardstick.Dimension
import Yardstick.Metric.Kind

/-!
# Report definitions

A report definition asks for metrics of some dimensions: standard aggregations, custom metrics and
computed ones, in this order.
-/

namespace Yardstick

/-- A custom metric asked for. -/
structure CustomRequest where
  name : String
  label : String
  template : String
  documentation : String
  deriving Repr, DecidableEq

/-- A computed metric asked for. -/
structure ComputedRequest where
  numerator : String
  denominator : String
  formula : Formula
  deriving Repr, DecidableEq

/-- What is asked for of one dimension. -/
structure DimensionRequest where
  dimension : Dimension
  aggregations : List Aggregation
  custom : List CustomRequest
  computed : List ComputedRequest
  deriving Repr, DecidableEq

structure ReportDefinition where
  id : String
  dimensions : List DimensionRequest
  deriving Repr, DecidableEq

end Yardstick
