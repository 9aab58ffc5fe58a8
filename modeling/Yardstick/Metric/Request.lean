import Yardstick.Metric.Build

/-!
# Requests with kinds as values

A request may give a kind as any value. One that names no kind is reported as it stands, and where a
kind is looked up in a table, lists and objects cannot even be looked up.
-/

namespace Yardstick

/-- The aggregation that a value names. -/
def Aggregation.ofJson (v : Json) : Except Error Aggregation :=
  (ofJson? v).elim (.error (.unknownAggregation v.shown)) .ok

def Formula.ofJson (v : Json) : Except Error Formula :=
  (ofJson? v).elim (.error (.unknownFormula v.shown)) .ok

/-- Looks up a kind in a table of aggregations. -/
def Aggregation.find (v : Json) (missing : String → Error) : Except Fault Aggregation :=
  match v with
  | .arr _ | .obj _ => .error (.unhashable v.kindWord)
  | _ => (ofJson? v).elim (.error (.error (missing v.shown))) .ok

/-- The name prefix of a kind. -/
def namePrefixOf (kind : Json) : Except Fault String :=
  (Aggregation.find kind .aggregationWithoutPrefix).map (·.namePrefix)

/-- The name of a base metric of a kind. -/
def baseNameOf (kind : Json) (d : Dimension) : Except Fault String := do
  let aggregation ← Aggregation.find kind .aggregationWithoutPrefix
  liftError (baseName aggregation d.module d.id)

/-- The expression of a kind over a column. -/
def expressionOf (kind : Json) (column : String) : Except Fault String :=
  (Aggregation.find kind .unsupportedAggregation).map (·.expression column)

end Yardstick
