import Yardstick.Registry

/-!
# Evaluation plans

A plan lists the computed metrics of a registry so that each comes after those it depends on. They
are visited in order of acceptance, each after its dependencies, the numerator first. A metric that
is met again while its own dependencies are being visited closes a cycle, and there is no plan.
-/

namespace Yardstick

namespace Plan

/-- The names on the way from a metric back to itself. `path` lists the metrics being visited, the
last first. -/
def cycleChain (name : String) (path : List String) : List String :=
  name :: (path.takeWhile (· != name)).reverse ++ [name]

/-- The computed metrics that are not being visited. -/
def ahead (computed : List ComputedMetric) (path : List String) : List ComputedMetric :=
  computed.filter (·.name ∉ path)

/-- A visit has fewer metrics ahead of it than the one it was made from. -/
theorem length_ahead_lt {computed : List ComputedMetric} {path : List String} {name : String}
    {m : ComputedMetric} (hm : computed.find? (·.name = name) = some m) (hp : name ∉ path) :
    (ahead computed (name :: path)).length < (ahead computed path).length := by
  have hn : m.name = name := by simpa using List.find?_some hm
  have hmem : m ∈ ahead computed path :=
    List.mem_filter.2 ⟨List.mem_of_find?_eq_some hm, by simpa [hn] using hp⟩
  have hrest : ahead computed (name :: path) = (ahead computed path).filter (·.name ≠ name) := by
    simp only [ahead, List.filter_filter, List.mem_cons, not_or, Bool.decide_and]
  rw [hrest]
  exact List.length_filter_lt_length_iff_exists.2 ⟨m, hmem, by simp [hn]⟩

/-- Visits the metric of a name, if it is a computed one, and returns the plan so far with it and all
that it needs. -/
def visit (computed : List ComputedMetric) (path : List String) (plan : List ComputedMetric)
    (name : String) : Except Error (List ComputedMetric) :=
  match _ : computed.find? (·.name = name) with
  | none => .ok plan
  | some m =>
    if plan.any (·.name = name) then .ok plan
    else if _ : name ∈ path then .error (.cycle (cycleChain name path))
    else do
      let plan ← visit computed (name :: path) plan m.numerator
      let plan ← visit computed (name :: path) plan m.denominator
      return plan ++ [m]
  termination_by (ahead computed path).length
  decreasing_by all_goals exact length_ahead_lt ‹_› ‹_›

/-- The plan of computed metrics. -/
def ofMetrics (computed : List ComputedMetric) : Except Error (List ComputedMetric) :=
  computed.foldlM (fun plan m => visit computed [] plan m.name) []

end Plan

/-- The plan of a registry. -/
def Registry.plan (r : Registry) : Except Error (List ComputedMetric) := Plan.ofMetrics r.computed

end Yardstick
