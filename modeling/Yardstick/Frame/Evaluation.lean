import Yardstick.Frame.Conversion
import Yardstick.Metric.Basic

/-!
# Evaluating computed metrics

A computed metric divides one value by another; a division by zero gives zero, whatever is divided.
One metric is evaluated over single values by `ComputedMetric.evaluate`, and over the columns of a
frame by `Frame.extend`, where the zeros are masked out before the division and filled in after it.
-/

namespace Yardstick

/-- What a quotient is multiplied by. -/
def Formula.scale : Formula → Float
  | average => 1.0
  | rate => 100.0

/-- Division that is zero at a zero divisor. -/
def safeRatio (numerator denominator : Float) : Float :=
  if denominator == 0.0 then 0.0 else numerator / denominator

/-- The value that a metric depends on. -/
def ComputedMetric.lookup (m : ComputedMetric) (values : List (String × Json)) (name : String) :
    Except Fault Json :=
  (values.lookup name).elim (.error (.error (.missingValue m.name name))) .ok

/-- The value of a computed metric for values of its dependencies. -/
def ComputedMetric.evaluate (m : ComputedMetric) (values : List (String × Json)) :
    Except Fault Float := do
  let numerator ← m.lookup values m.numerator
  let denominator ← m.lookup values m.denominator
  let numerator ← numerator.toFloat.mapError .number
  let denominator ← denominator.toFloat.mapError .number
  return safeRatio numerator denominator * m.formula.scale

/-- The cells where `mask` is set replaced by `filler`. -/
def fillWhere (mask : List Bool) (filler : Float) (xs : List Float) : List Float :=
  List.zipWith (fun x m => if m then filler else x) xs mask

/-- Division of columns that is zero at a zero divisor. -/
def safeRatios (numerators denominators : List Float) : List Float :=
  let zero := denominators.map (· == 0.0)
  let divisors := fillWhere zero (0.0 / 0.0) denominators
  fillWhere zero 0.0 (List.zipWith (· / ·) numerators divisors)

theorem length_safeRatios {numerators denominators : List Float}
    (h : numerators.length = denominators.length) :
    (safeRatios numerators denominators).length = denominators.length := by
  simp [safeRatios, fillWhere, h]

namespace Frame

/-- The columns that a metric needs and the frame lacks. -/
def missing (f : Frame) (m : ComputedMetric) : List String :=
  m.dependencies.filter fun name => !f.columns.contains name

/-- Adds the column of a computed metric, or replaces the column of its name. -/
def extend (f : Frame) (m : ComputedMetric) : Except Fault Frame :=
  match f.columns.get? m.numerator, f.columns.get? m.denominator with
  | some n, some d =>
    match n.toFloats, d.toFloats with
    | .error e, _ => .error (.number e)
    | _, .error e => .error (.number e)
    | .ok ns, .ok ds =>
      let xs := (safeRatios ns ds).map (· * m.formula.scale)
      if h : (Column.floats xs).size = f.rows then .ok (f.put m.name (.floats xs) h)
      else .error .unevenColumns
  | _, _ => .error (.error (.missingColumns m.name (f.missing m)))

/-- Evaluates computed metrics in order, each over the columns of those before it. -/
def evaluate (f : Frame) (plan : List ComputedMetric) : Except Fault Frame := plan.foldlM extend f

end Frame

end Yardstick
