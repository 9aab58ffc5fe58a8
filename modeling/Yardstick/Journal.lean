import Yardstick.Json.Printer
import Yardstick.Metric.Basic
import Yardstick.Text.Case

/-!
# The journal

What a run has to say besides its result: log records in order, and counters to increment. A record
is printed if its level is not below a threshold.
-/

namespace Yardstick

inductive Level
  | debug
  | info
  | warning
  | error
  | critical
  deriving Repr, DecidableEq

namespace Level

def text : Level → String
  | debug => "debug"
  | info => "info"
  | warning => "warning"
  | error => "error"
  | critical => "critical"

def number : Level → Nat
  | debug => 10
  | info => 20
  | warning => 30
  | error => 40
  | critical => 50

def all : List Level := [debug, info, warning, error, critical]

/-- The thresholds by name. -/
def thresholds : List (String × Nat) :=
  [("CRITICAL", 50), ("FATAL", 50), ("ERROR", 40), ("WARN", 30), ("WARNING", 30), ("INFO", 20),
   ("DEBUG", 10), ("NOTSET", 0)]

/-- The threshold of a name in any case; an unknown name is one for information. -/
def threshold (name : String) : Nat :=
  (thresholds.lookup (String.ofList (Text.upper name.toList))).getD 20

end Level

structure LogRecord where
  level : Level
  event : String
  fields : List (String × Json)

namespace LogRecord

/-- Fields that ask for more to be printed, and are not printed themselves. -/
def requests : List String := ["exc_info", "stack_info"]

/-- The record as printed. The level wins over a field of that name. -/
def toMembers (r : LogRecord) : List (String × Json) :=
  let fields := r.fields.filter fun (name, _) => !requests.contains name
  (Table.ofList (fields ++ [("event", .str r.event), ("level", .str r.level.text)])).entries

/-- The text filled up with blanks. -/
def padded (width : Nat) (s : String) : String := s ++ "".pushn ' ' (width - s.length)

/-- The record as a line, as JSON or in plain words. -/
def line (asJson : Bool) (r : LogRecord) : String :=
  if asJson then (Json.obj r.toMembers).render
  else
    let fields := r.fields.map fun (name, v) => " " ++ name ++ "=" ++ v.shown
    "[" ++ padded 9 r.level.text ++ "] " ++ padded 30 r.event ++ "".intercalate fields

/-- Whether the record is printed under a threshold. -/
def isShown (r : LogRecord) (threshold : Nat) : Bool := threshold ≤ r.level.number

end LogRecord

/-- A counter with its label. -/
inductive Counter
  | built (isComputed : Bool)
  | buildFailed (f : Error.Family)
  | evaluated (f : Formula)
  | evaluationFailed (f : Error.Family)
  deriving Repr, DecidableEq

/-- The name of the counter, with its label in braces. -/
def Counter.text (c : Counter) : String :=
  let labelled (name label value : String) := name ++ "\x7b" ++ label ++ "=" ++ value ++ "\x7d"
  match c with
  | .built isComputed =>
    labelled "metric_descriptors_built_total" "descriptor_type"
      (if isComputed then "ComputedMetricDescriptor" else "MetricDescriptor")
  | .buildFailed f => labelled "report_build_failures_total" "error_type" f.text
  | .evaluated f => labelled "computed_metric_evaluations_total" "formula_kind" f.text
  | .evaluationFailed f => labelled "computed_metric_evaluation_failures_total" "error_type" f.text

/-- Log records and increments, in order. -/
structure Journal where
  records : List LogRecord
  increments : List Counter

namespace Journal

def empty : Journal := ⟨[], []⟩

def note (j : Journal) (level : Level) (event : String) (fields : List (String × Json)) : Journal :=
  { j with records := j.records ++ [⟨level, event, fields⟩] }

def count (j : Journal) (c : Counter) : Journal := { j with increments := j.increments ++ [c] }

/-- How often each counter was incremented. -/
def totals (j : Journal) : List (String × Nat) :=
  j.increments.eraseDups.map fun c => (c.text, j.increments.count c)

end Journal

/-- What is noted of a metric when it has been built. -/
def Metric.builtFields : Metric → String × List (String × Json)
  | .base m =>
    match m.aggregation with
    | some a => ("metric_created", [("name", .str m.name), ("aggregation", .str a.text)])
    | none => ("custom_metric_created", [("name", .str m.name)])
  | .computed m =>
    ("computed_metric_resolved",
      [("name", .str m.name), ("formula_kind", .str m.formula.text),
       ("dependencies", .arr (m.dependencies.map .str))])

def Journal.noteBuilt (j : Journal) (m : Metric) : Journal :=
  j.note .debug m.builtFields.1 m.builtFields.2

end Yardstick
