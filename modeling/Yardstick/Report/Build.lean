import Yardstick.Metric.Build
import Yardstick.Registry
import Yardstick.Report.Definition
import Yardstick.Report.Journaled

/-!
# Building a report

The metrics of a report are built dimension by dimension. All metrics of a dimension are built before
the first of them is registered, so an error in building comes before a name that is taken.
-/

namespace Yardstick

/-- The metrics asked for of a dimension, each as far as it can be built. -/
def DimensionRequest.attempts (r : DimensionRequest) (t : Translator) : List (Except Fault Metric) :=
  r.aggregations.map (fun a => (r.dimension.baseMetric t a).map .base) ++
    r.custom.map (fun c =>
      (r.dimension.customMetric c.name c.label c.template c.documentation).map .base) ++
    r.computed.map (fun c =>
      (computedMetric c.numerator c.denominator c.formula r.dimension.category t).map .computed)

/-- A metric that has been built, noted in the journal. -/
def noteBuilt (attempt : Except Fault Metric) : Journaled Metric := do
  let m ← Journaled.ofExcept attempt
  modify (·.noteBuilt m)
  return m

/-- The metrics of a dimension. -/
def DimensionRequest.build (r : DimensionRequest) (t : Translator) : Journaled (List Metric) := do
  let metrics ← (r.attempts t).mapM noteBuilt
  Journaled.note .info "dimension_metrics_built"
    [("dimension_id", .str r.dimension.id), ("module", .str r.dimension.module),
     ("category_id", .str r.dimension.category), ("count", .int metrics.length)]
  return metrics

/-- Registers a metric and counts it. -/
def Registry.accept (r : Registry) (m : Metric) : Journaled Registry := do
  let r ← Journaled.ofExcept ((r.register m).mapError .error)
  Journaled.count (.built m.computed?.isSome)
  return r

/-- Builds and registers the metrics of a dimension. -/
def Registry.acceptAll (t : Translator) (r : Registry) (request : DimensionRequest) :
    Journaled Registry := do
  (← request.build t).foldlM Registry.accept r

/-- The metrics of a report. -/
def ReportDefinition.build (d : ReportDefinition) (t : Translator) : Journaled Registry := do
  Journaled.note .info "building_report_metrics"
    [("report_id", .str d.id), ("dimensions", .int d.dimensions.length)]
  let r ← Journaled.onError (d.dimensions.foldlM (Registry.acceptAll t) .empty) fun e => do
    Journaled.count (.buildFailed e.family)
    Journaled.note .error "report_build_failed" (("report_id", .str d.id) :: e.fields)
  Journaled.note .info "report_metrics_built"
    [("report_id", .str d.id), ("metric_count", .int r.base.length),
     ("computed_metric_count", .int r.computed.length)]
  return r

end Yardstick
