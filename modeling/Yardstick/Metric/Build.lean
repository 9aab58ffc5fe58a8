import Yardstick.Dimension
import Yardstick.Label
import Yardstick.Metric.Expression
import Yardstick.Metric.Name

/-!
# Building metrics

The metrics of a dimension: base metrics for its standard aggregations, custom ones from the caller's
texts, and computed ones from two names. Texts come from the translator; nothing else of a metric
depends on it. Of several errors the first in the order of the steps below is the one reported.
-/

namespace Yardstick

def liftError {α : Type} (x : Except Error α) : Except Fault α := x.mapError .error

/-- The label templates of an aggregation. -/
def Aggregation.labelTemplate : Aggregation → LabelTemplate
  | count => ⟨"Metric_Count", "\x7bplural\x7d"⟩
  | uniqueCount => ⟨"Metric_UniqueCount", "Unique \x7bplural\x7d"⟩
  | sum => ⟨"Metric_Sum", "Total \x7bplural\x7d"⟩
  | min => ⟨"Metric_Min", "Min \x7bplural\x7d"⟩
  | max => ⟨"Metric_Max", "Max \x7bplural\x7d"⟩
  | countWithValue => ⟨"Metric_CountWithValue", "Entries with \x7blabel\x7d"⟩

def Aggregation.documentationTemplate : Aggregation → LabelTemplate
  | count => ⟨"Metric_CountDocumentation", "The number of \x7bplural\x7d"⟩
  | uniqueCount => ⟨"Metric_UniqueCountDocumentation", "The unique number of \x7bplural\x7d"⟩
  | sum => ⟨"Metric_SumDocumentation", "The total number (sum) of \x7bplural\x7d"⟩
  | min => ⟨"Metric_MinDocumentation", "The minimum value for \x7bplural\x7d"⟩
  | max => ⟨"Metric_MaxDocumentation", "The maximum value for \x7bplural\x7d"⟩
  | countWithValue =>
    ⟨"Metric_CountWithValueDocumentation", "The number of entries that have a value set for \x7blabel\x7d"⟩

/-- The template of a computed metric's label, filled with the labels of both dependencies. -/
def Formula.labelTemplate : Formula → LabelTemplate
  | average => ⟨"ComputedMetric_Average", "Avg. \x7b0\x7d per \x7b1\x7d"⟩
  | rate => ⟨"ComputedMetric_Rate", "\x7b0\x7d Rate"⟩

def Formula.documentationTemplate : Formula → LabelTemplate
  | average =>
    ⟨"ComputedMetric_AverageDocumentation", "Average value of \"\x7b0\x7d\" per \"\x7b1\x7d\"."⟩
  | rate =>
    ⟨"ComputedMetric_RateDocumentation", "The ratio of \"\x7b0\x7d\" out of all \"\x7b1\x7d\"."⟩

/-- The context in which a text for one of something is kept. -/
def singularContext : String := "singular"

/-- The context of texts that replace the label of a formula. -/
def Formula.context (f : Formula) : String := f.text

def Formula.documentationContext (f : Formula) : String := f.text ++ "_documentation"

/-- The base metric of a dimension for one aggregation. -/
def Dimension.baseMetric (d : Dimension) (t : Translator) (aggregation : Aggregation) :
    Except Fault BaseMetric := do
  let args : Template.Arguments := ⟨[], [("plural", d.pluralLabel t), ("label", d.label t)]⟩
  let name ← liftError (baseName aggregation d.module d.id)
  let label ← aggregation.labelTemplate.render t args
  let documentation ← aggregation.documentationTemplate.render t args
  let column ← liftError d.columnExpression
  liftError (BaseMetric.make name label documentation d.category (aggregation.expression column)
    aggregation)

/-- A metric of a dimension with the caller's name, texts and aggregation template. -/
def Dimension.customMetric (d : Dimension) (name label template documentation : String) :
    Except Fault BaseMetric := do
  let column ← liftError d.columnExpression
  let expression ← liftError (substitute template column)
  liftError (BaseMetric.make name label documentation d.category expression none)

/-- The label of a metric known by name. -/
def metricLabel (t : Translator) (name : String) : String := t.textOr name name

/-- The label of a denominator, for one of it where the formula reads so. -/
def Formula.perLabel (f : Formula) (t : Translator) (name : String) : String :=
  match f with
  | average => (nonempty? (t.resolve name singularContext)).getD (metricLabel t name)
  | rate => metricLabel t name

/-- The label of the computed metric of two names. A text of the numerator in the formula's own
context takes its place, as it stands. -/
def Formula.labelOf (f : Formula) (t : Translator) (numerator denominator : String) :
    Except Fault String :=
  match t.resolve numerator f.context with
  | some text => .ok text
  | none => f.labelTemplate.render t ⟨[metricLabel t numerator, f.perLabel t denominator], []⟩

/-- The documentation of the computed metric of two names, by the same rule. -/
def Formula.documentationOf (f : Formula) (t : Translator) (numerator denominator : String) :
    Except Fault String :=
  match t.resolve numerator f.documentationContext with
  | some text => .ok text
  | none =>
    f.documentationTemplate.render t ⟨[metricLabel t numerator, metricLabel t denominator], []⟩

/-- The computed metric of two names. -/
def computedMetric (numerator denominator : String) (formula : Formula) (category : String)
    (t : Translator) : Except Fault ComputedMetric := do
  let label ← formula.labelOf t numerator denominator
  let documentation ← formula.documentationOf t numerator denominator
  liftError (ComputedMetric.make (computedName numerator denominator formula) label documentation
    category formula [numerator, denominator])

end Yardstick
