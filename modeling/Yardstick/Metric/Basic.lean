import Yardstick.Metric.Error
import Yardstick.Metric.Kind

/-!
# Metrics

A base metric is an aggregation of a column, standard or custom; a computed metric is a ratio of two
others, which it knows by name only. Every metric has a name and a category, and the two dependencies
of a computed metric are named and different: the types hold the proofs, and `BaseMetric.make` and
`ComputedMetric.make` say which requirement fails first.
-/

namespace Yardstick

/-- A metric that is read off a column. A custom one has no aggregation. -/
structure BaseMetric where
  name : String
  label : String
  documentation : String
  category : String
  expression : String
  aggregation : Option Aggregation
  name_ne : name ≠ ""
  category_ne : category ≠ ""
  deriving Repr, DecidableEq

/-- A metric that is a ratio of two others. -/
structure ComputedMetric where
  name : String
  label : String
  documentation : String
  category : String
  formula : Formula
  numerator : String
  denominator : String
  name_ne : name ≠ ""
  category_ne : category ≠ ""
  numerator_ne : numerator ≠ ""
  denominator_ne : denominator ≠ ""
  distinct : numerator ≠ denominator
  deriving Repr, DecidableEq

inductive Metric
  | base (m : BaseMetric)
  | computed (m : ComputedMetric)
  deriving Repr, DecidableEq

def BaseMetric.isCustom (m : BaseMetric) : Bool := m.aggregation.isNone

def ComputedMetric.dependencies (m : ComputedMetric) : List String := [m.numerator, m.denominator]

theorem ComputedMetric.numerator_mem (m : ComputedMetric) : m.numerator ∈ m.dependencies :=
  List.mem_cons_self

theorem ComputedMetric.denominator_mem (m : ComputedMetric) : m.denominator ∈ m.dependencies :=
  List.mem_cons_of_mem _ List.mem_cons_self

/-- A base metric, if it has a name and a category. -/
def BaseMetric.make (name label documentation category expression : String)
    (aggregation : Option Aggregation) : Except Error BaseMetric :=
  if hn : name = "" then .error .emptyName
  else if hc : category = "" then .error (.noCategory name)
  else .ok ⟨name, label, documentation, category, expression, aggregation, hn, hc⟩

/-- A computed metric, if it has a name, a category and two different dependencies. -/
def ComputedMetric.make (name label documentation category : String) (formula : Formula)
    (dependencies : List String) : Except Error ComputedMetric :=
  if hn : name = "" then .error .emptyName
  else if hc : category = "" then .error (.noCategory name)
  else
    match dependencies with
    | [numerator, denominator] =>
      if h₁ : numerator = "" then .error (.emptyDependency name)
      else if h₂ : denominator = "" then .error (.emptyDependency name)
      else if hd : numerator = denominator then .error (.repeatedDependency name numerator)
      else .ok ⟨name, label, documentation, category, formula, numerator, denominator, hn, hc, h₁, h₂, hd⟩
    | _ => .error (.dependencyCount name dependencies.length)

namespace Metric

def name : Metric → String
  | base m => m.name
  | computed m => m.name

def label : Metric → String
  | base m => m.label
  | computed m => m.label

def documentation : Metric → String
  | base m => m.documentation
  | computed m => m.documentation

def category : Metric → String
  | base m => m.category
  | computed m => m.category

def base? : Metric → Option BaseMetric
  | base m => some m
  | computed _ => none

def computed? : Metric → Option ComputedMetric
  | base _ => none
  | computed m => some m

end Metric

end Yardstick
