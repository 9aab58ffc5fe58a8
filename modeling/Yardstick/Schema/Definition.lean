import Yardstick.Report.Definition
import Yardstick.Schema.Basic

/-!
# Definition documents

Report definitions and their parts, read from documents and written back in either spelling of the
fields. A dimension is refused as a whole if its fields give it no column.
-/

namespace Yardstick

open Schema Schema.Checked

namespace Aggregation

def check : Json → Checked Aggregation := choice (all.map text) ofJson?

end Aggregation

namespace Formula

def check : Json → Checked Formula := choice (all.map text) ofJson?

end Formula

def categoryKey : Key := ⟨"categoryId", "category_id"⟩
def translatedNameKey : Key := ⟨"translatedName", "translated_name"⟩

namespace Dimension

def idKey : Key := .plain "id"
def moduleKey : Key := .plain "module"
def tableKey : Key := .plain "table"
def columnKey : Key := .plain "column"
def segmentKey : Key := ⟨"sqlSegment", "sql_segment"⟩
def labelKeyKey : Key := ⟨"labelKey", "label_key"⟩
def pluralLabelKeyKey : Key := ⟨"pluralLabelKey", "plural_label_key"⟩

/-- A dimension whose column can be told. -/
def requireColumn (d : Dimension) : Checked Dimension :=
  match d.column? with
  | some _ => .ok d
  | none =>
    fail (.rejected s!"Dimension {d.id} needs either sqlSegment or table and column")

def ofMembers (ms : List (String × Json)) : Checked Dimension :=
  ((required idKey nonemptyText ms).map Dimension.mk
    |> (app · (required moduleKey nonemptyText ms))
    |> (app · (required categoryKey text ms))
    |> (app · (optional tableKey none (nullable text) ms))
    |> (app · (optional columnKey none (nullable text) ms))
    |> (app · (optional segmentKey none (nullable text) ms))
    |> (app · (required labelKeyKey text ms))
    |> (app · (optional pluralLabelKeyKey none (nullable text) ms))).bind requireColumn

def toMembers (d : Dimension) (style : Style) : List (String × Json) :=
  [(idKey.inStyle style, .str d.id),
   (moduleKey.inStyle style, .str d.module),
   (categoryKey.inStyle style, .str d.category),
   (tableKey.inStyle style, optionalText d.table),
   (columnKey.inStyle style, optionalText d.column),
   (segmentKey.inStyle style, optionalText d.sqlSegment),
   (labelKeyKey.inStyle style, .str d.labelKey),
   (pluralLabelKeyKey.inStyle style, optionalText d.pluralLabelKey)]

end Dimension

namespace CustomRequest

def nameKey : Key := .plain "name"
def templateKey : Key := .plain "aggregation"
def documentationKey : Key := .plain "documentation"

def ofMembers (ms : List (String × Json)) : Checked CustomRequest :=
  (required nameKey nonemptyText ms).map CustomRequest.mk
    |> (app · (required translatedNameKey text ms))
    |> (app · (required templateKey text ms))
    |> (app · (optional documentationKey "" text ms))

def toMembers (r : CustomRequest) (style : Style) : List (String × Json) :=
  [(nameKey.inStyle style, .str r.name),
   (translatedNameKey.inStyle style, .str r.label),
   (templateKey.inStyle style, .str r.template),
   (documentationKey.inStyle style, .str r.documentation)]

end CustomRequest

namespace ComputedRequest

def numeratorKey : Key := .plain "metric1"
def denominatorKey : Key := .plain "metric2"
def formulaKey : Key := .plain "formula"

def ofMembers (ms : List (String × Json)) : Checked ComputedRequest :=
  (required numeratorKey nonemptyText ms).map ComputedRequest.mk
    |> (app · (required denominatorKey nonemptyText ms))
    |> (app · (required formulaKey Formula.check ms))

def toMembers (r : ComputedRequest) (style : Style) : List (String × Json) :=
  [(numeratorKey.inStyle style, .str r.numerator),
   (denominatorKey.inStyle style, .str r.denominator),
   (formulaKey.inStyle style, .str r.formula.text)]

end ComputedRequest

namespace DimensionRequest

def dimensionKey : Key := .plain "dimension"
def aggregationsKey : Key := .plain "aggregations"
def customKey : Key := ⟨"customMetrics", "custom_metrics"⟩
def computedKey : Key := ⟨"computedMetrics", "computed_metrics"⟩

def ofMembers (ms : List (String × Json)) : Checked DimensionRequest :=
  (required dimensionKey (model "DimensionDefinition" Dimension.ofMembers) ms).map DimensionRequest.mk
    |> (app · (optional aggregationsKey [] (list Aggregation.check) ms))
    |> (app · (optional customKey [] (list (model "CustomMetricDefinition" CustomRequest.ofMembers)) ms))
    |> (app · (optional computedKey []
        (list (model "ComputedMetricDefinition" ComputedRequest.ofMembers)) ms))

def toMembers (r : DimensionRequest) (style : Style) : List (String × Json) :=
  [(dimensionKey.inStyle style, .obj (r.dimension.toMembers style)),
   (aggregationsKey.inStyle style, .arr (r.aggregations.map fun a => .str a.text)),
   (customKey.inStyle style, .arr (r.custom.map fun c => .obj (c.toMembers style))),
   (computedKey.inStyle style, .arr (r.computed.map fun c => .obj (c.toMembers style)))]

end DimensionRequest

namespace ReportDefinition

def idKey : Key := ⟨"reportId", "report_id"⟩
def dimensionsKey : Key := .plain "dimensions"

def ofMembers (ms : List (String × Json)) : Checked ReportDefinition :=
  (required idKey text ms).map ReportDefinition.mk
    |> (app · (required dimensionsKey
        (list (model "DimensionMetricsDefinition" DimensionRequest.ofMembers)) ms))

def toMembers (d : ReportDefinition) (style : Style) : List (String × Json) :=
  [(idKey.inStyle style, .str d.id),
   (dimensionsKey.inStyle style, .arr (d.dimensions.map fun r => .obj (r.toMembers style)))]

end ReportDefinition

end Yardstick
