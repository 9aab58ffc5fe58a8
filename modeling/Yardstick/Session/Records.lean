import Yardstick.Schema.Record
import Yardstick.Session.Documents

/-!
# Files of metric records

One metric for each line, as the JSON text of its record. Reading such a file skips blank lines; a
line that is no record is reported with its number among the lines read.
-/

namespace Yardstick

/-- The line of a metric. -/
def Metric.line (m : Metric) : String :=
  (Json.obj ((Record.ofMetric m).toMembers .camel)).render

/-- The file of some metrics. -/
def recordsText (metrics : List Metric) : String :=
  metrics.foldr (fun m text => m.line ++ "\n" ++ text) ""

/-- The record on a line. -/
def Record.ofLine (line : String) : Except LineFault Record :=
  match Json.parse line with
  | .error f => .error (.malformed f)
  | .ok (.obj ms) => (Record.ofMembers ms).mapError .issues
  | .ok _ => .error .notObject

/-- A fault of a line as a failure. An integer that is too long is not put down to its line. -/
def LineFault.failure (path : String) (number : Nat) : LineFault → Failure
  | .malformed (.hugeInteger digits) => .hugeInteger digits
  | f => .invalidLine path number f

/-- The metrics of some lines, the first of which has a number. -/
def metricsOfLines (path : String) : (number : Nat) → List String → Except Failure (List Metric)
  | _, [] => .ok []
  | number, line :: lines => do
    let record ← (Record.ofLine line).mapError (LineFault.failure path number)
    let metric ← record.toMetric.mapError fun e => Failure.fault (.error e)
    return metric :: (← metricsOfLines path (number + 1) lines)

/-- The metrics of a file. Faults name it by the path that was asked for. -/
def Store.readMetrics (s : Store) (base : Base) (p : Path) (shown : String) :
    Except Failure (List Metric) := do
  metricsOfLines shown 1 (← s.readLines (base.resolve p))

def Work.writeMetrics (p : Path) (metrics : List Metric) : Work Path :=
  writeText p (recordsText metrics)

end Yardstick
