import Yardstick.Template.Basic

/-!
# Errors of the metric engine

Each error is a cause with what its message mentions. `Error.family` sorts the causes; the family's
word is what counters and log records carry.
-/

namespace Yardstick

inductive Error
  | unknownAggregation (shown : String)
  | aggregationWithoutPrefix (shown : String)
  | unsupportedAggregation (shown : String)
  | placeholders (count : Nat) (template : String)
  | noSlug (module id : String)
  | noColumn (id : String)
  | unknownFormula (shown : String)
  | dependencyCount (name : String) (count : Nat)
  | emptyDependency (name : String)
  | repeatedDependency (name dependency : String)
  | emptyName
  | noCategory (name : String)
  | badTemplate (key template : String) (cause : Template.Cause)
  | duplicate (name : String)
  | cycle (chain : List String)
  /-- The columns that a computed metric needs and a frame lacks. -/
  | missingColumns (name : String) (dependencies : List String)
  | missingValue (name dependency : String)
  deriving Repr, DecidableEq

namespace Error

inductive Family
  | aggregation
  | template
  | dimension
  | computedMetric
  | metric
  | labelTemplate
  | duplicate
  | cycle
  | unresolved
  deriving Repr, DecidableEq

def Family.text : Family → String
  | aggregation => "InvalidAggregationError"
  | template => "InvalidTemplateError"
  | dimension => "InvalidDimensionError"
  | computedMetric => "InvalidComputedMetricError"
  | metric => "InvalidMetricError"
  | labelTemplate => "InvalidTranslationTemplateError"
  | duplicate => "DuplicateMetricError"
  | cycle => "CyclicDependencyError"
  | unresolved => "UnresolvedDependencyError"

def family : Error → Family
  | unknownAggregation _ | aggregationWithoutPrefix _ | unsupportedAggregation _ => .aggregation
  | placeholders _ _ => .template
  | noSlug _ _ | noColumn _ => .dimension
  | unknownFormula _ | dependencyCount _ _ | emptyDependency _ | repeatedDependency _ _ =>
    .computedMetric
  | emptyName | noCategory _ => .metric
  | badTemplate _ _ _ => .labelTemplate
  | duplicate _ => .duplicate
  | cycle _ => .cycle
  | missingColumns _ _ | missingValue _ _ => .unresolved

def message : Error → String
  | unknownAggregation shown => s!"Unknown aggregation kind: {shown}"
  | aggregationWithoutPrefix shown => s!"No name prefix for aggregation: {shown}"
  | unsupportedAggregation shown => s!"Unsupported aggregation: {shown}"
  | placeholders count template =>
    "Aggregation template must contain exactly one '%s' placeholder, " ++
      s!"found {count}: {Text.quote template}"
  | noSlug module id =>
    s!"Cannot build metric slug for dimension: {Text.quote module}/{Text.quote id}"
  | noColumn id => s!"Dimension {id} has no column expression"
  | unknownFormula shown => s!"Unknown computed formula: {shown}"
  | dependencyCount name count =>
    s!"Computed metric {name} needs exactly 2 dependencies, got {count}"
  | emptyDependency name => s!"Computed metric {name} has an empty dependency name"
  | repeatedDependency name dependency => s!"Computed metric {name} depends twice on {dependency}"
  | emptyName => "Metric name must not be empty"
  | noCategory name => s!"Metric {name} has no category"
  | badTemplate key template cause =>
    s!"Translation template {key} is invalid: {Text.quote template} ({cause.shown})"
  | duplicate name => s!"Metric already registered: {name}"
  | cycle chain => "Cyclic computed metrics: " ++ " -> ".intercalate chain
  | missingColumns name dependencies =>
    s!"Computed metric {name} depends on missing metrics: " ++ ", ".intercalate dependencies
  | missingValue name dependency =>
    s!"Computed metric {name} depends on missing metric: {dependency}"

end Error

/-- A value that is no number, and why. -/
inductive NumberFault
  | notNumeric (text : String)
  | tooLarge
  | wrongType (kind : String)
  deriving Repr, DecidableEq

def NumberFault.message : NumberFault → String
  | notNumeric text => s!"could not convert string to float: {Text.quote text}"
  | tooLarge => "int too large to convert to float"
  | wrongType kind => s!"float() argument must be a string or a real number, not '{kind}'"

/-- Why building or evaluating fails: for an error of the engine, or for a fault in a template or a
value that the engine does not account for. -/
inductive Fault
  | error (e : Error)
  | misuse (m : Template.Misuse)
  | number (n : NumberFault)
  /-- A kind was given as a value that cannot be looked up. -/
  | unhashable (kind : String)
  | unevenColumns
  deriving Repr, DecidableEq

def Fault.message : Fault → String
  | error e => e.message
  | misuse m => m.message
  | number n => n.message
  | unhashable kind => s!"unhashable type: '{kind}'"
  | unevenColumns => "All arrays must be of the same length"

/-- The error of the engine behind a fault. -/
def Fault.error? : Fault → Option Error
  | error e => some e
  | _ => none

end Yardstick
