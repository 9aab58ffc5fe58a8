import Yardstick.Frame.Evaluation
import Yardstick.Plan
import Yardstick.Report.Journaled

/-!
# Evaluating a report

The computed metrics of a registry are evaluated over a frame in the order of its plan. A success
counts each of them, a failure is counted once by its family.
-/

namespace Yardstick

/-- The plan of a registry and the frame with all its computed metrics. -/
def Registry.evaluatePlan (r : Registry) (f : Frame) : Except Fault (List ComputedMetric × Frame) := do
  let plan ← r.plan.mapError .error
  let result ← f.evaluate plan
  return (plan, result)

/-- The frame with all computed metrics of a registry. -/
def Registry.evaluate (r : Registry) (f : Frame) : Journaled Frame := do
  let (plan, result) ← Journaled.onError (Journaled.ofExcept (r.evaluatePlan f)) fun e => do
    Journaled.count (.evaluationFailed e.family)
    Journaled.note .error "report_evaluation_failed" e.fields
  plan.forM fun m => Journaled.count (.evaluated m.formula)
  Journaled.note .info "report_evaluated"
    [("rows", .int result.rows), ("computed_metrics", .arr (plan.map fun m => .str m.name))]
  return result

end Yardstick
