import Yardstick.Metric.Basic
import Yardstick.Schema.Definition

/-!
# Metric records

A record is a metric as a document. A record of the type `computed_metric` is one of a computed
metric, any other one of a base metric; `Record.ofMetric` and `Record.toMetric` go back and forth. The
metric's own requirements are not the record's: a record may have an empty name.
-/

namespace Yardstick

open Schema Schema.Checked

structure BaseRecord where
  type : String
  name : String
  label : String
  documentation : String
  category : String
  expression : String
  aggregation : Option Aggregation
  deriving Repr, DecidableEq

structure ComputedRecord where
  type : String
  name : String
  label : String
  documentation : String
  category : String
  formula : Formula
  dependencies : List String
  deriving Repr, DecidableEq

inductive Record
  | base (r : BaseRecord)
  | computed (r : ComputedRecord)
  deriving Repr, DecidableEq

namespace Record

def typeKey : Key := .plain "type"
def nameKey : Key := .plain "name"
def documentationKey : Key := .plain "documentation"
def expressionKey : Key := .plain "expression"
def aggregationKey : Key := ⟨"aggregationKind", "aggregation_kind"⟩
def formulaKey : Key := ⟨"formulaKind", "formula_kind"⟩
def dependenciesKey : Key := ⟨"dependencyNames", "dependency_names"⟩

def baseType : String := "metric"
def computedType : String := "computed_metric"

end Record

open Record

namespace BaseRecord

def ofMembers (ms : List (String × Json)) : Checked BaseRecord :=
  (optional typeKey baseType text ms).map BaseRecord.mk
    |> (app · (required nameKey text ms))
    |> (app · (required translatedNameKey text ms))
    |> (app · (required documentationKey text ms))
    |> (app · (required categoryKey text ms))
    |> (app · (required expressionKey text ms))
    |> (app · (optional aggregationKey none (nullable Aggregation.check) ms))

def toMembers (r : BaseRecord) (style : Style) : List (String × Json) :=
  [(typeKey.inStyle style, .str r.type),
   (nameKey.inStyle style, .str r.name),
   (translatedNameKey.inStyle style, .str r.label),
   (documentationKey.inStyle style, .str r.documentation),
   (categoryKey.inStyle style, .str r.category),
   (expressionKey.inStyle style, .str r.expression),
   (aggregationKey.inStyle style, optionalText (r.aggregation.map Aggregation.text))]

end BaseRecord

namespace ComputedRecord

def ofMembers (ms : List (String × Json)) : Checked ComputedRecord :=
  (optional typeKey computedType text ms).map ComputedRecord.mk
    |> (app · (required nameKey text ms))
    |> (app · (required translatedNameKey text ms))
    |> (app · (required documentationKey text ms))
    |> (app · (required categoryKey text ms))
    |> (app · (required formulaKey Formula.check ms))
    |> (app · (required dependenciesKey (listOf 2 text) ms))

def toMembers (r : ComputedRecord) (style : Style) : List (String × Json) :=
  [(typeKey.inStyle style, .str r.type),
   (nameKey.inStyle style, .str r.name),
   (translatedNameKey.inStyle style, .str r.label),
   (documentationKey.inStyle style, .str r.documentation),
   (categoryKey.inStyle style, .str r.category),
   (formulaKey.inStyle style, .str r.formula.text),
   (dependenciesKey.inStyle style, .arr (r.dependencies.map .str))]

end ComputedRecord

namespace Record

/-- The record of a document, of the kind that its type asks for. -/
def ofMembers (ms : List (String × Json)) : Checked Record :=
  match ms.lookup typeKey.camel with
  | some (.str s) =>
    if s = computedType then (ComputedRecord.ofMembers ms).map .computed
    else (BaseRecord.ofMembers ms).map .base
  | _ => (BaseRecord.ofMembers ms).map .base

def toMembers (r : Record) (style : Style) : List (String × Json) :=
  match r with
  | base r => r.toMembers style
  | computed r => r.toMembers style

/-- The record of a metric. -/
def ofMetric : Metric → Record
  | .base m =>
    .base ⟨baseType, m.name, m.label, m.documentation, m.category, m.expression, m.aggregation⟩
  | .computed m =>
    .computed ⟨computedType, m.name, m.label, m.documentation, m.category, m.formula, m.dependencies⟩

/-- The metric of a record, if it meets a metric's requirements. -/
def toMetric : Record → Except Error Metric
  | base r =>
    (BaseMetric.make r.name r.label r.documentation r.category r.expression r.aggregation).map .base
  | computed r =>
    (ComputedMetric.make r.name r.label r.documentation r.category r.formula r.dependencies).map
      .computed

end Record

end Yardstick
