import Yardstick.Metric.Basic

/-!
# Registries

A registry holds metrics in the order in which they were accepted. Names are different: a metric with
a name that is taken is refused, and the registry stays as it was.
-/

namespace Yardstick

structure Registry where
  metrics : List Metric
  nodup : (metrics.map Metric.name).Nodup
  deriving Repr, DecidableEq

namespace Registry

def empty : Registry := ⟨[], List.nodup_nil⟩

/-- The names in order of acceptance. -/
def names (r : Registry) : List String := r.metrics.map Metric.name

def size (r : Registry) : Nat := r.metrics.length

def contains (r : Registry) (name : String) : Bool := r.names.contains name

def find? (r : Registry) (name : String) : Option Metric := r.metrics.find? (·.name = name)

def base (r : Registry) : List BaseMetric := r.metrics.filterMap Metric.base?

def computed (r : Registry) : List ComputedMetric := r.metrics.filterMap Metric.computed?

theorem nodup_append_name {l : List Metric} {m : Metric} (hl : (l.map Metric.name).Nodup)
    (hm : m.name ∉ l.map Metric.name) : ((l ++ [m]).map Metric.name).Nodup := by
  rw [List.map_append]
  refine List.nodup_append.2 ⟨hl, by simp, ?_⟩
  intro a ha b hb hab
  simp only [List.map_cons, List.map_nil, List.mem_singleton] at hb
  exact hm (hb ▸ hab ▸ ha)

/-- Accepts a metric unless its name is taken. -/
def register (r : Registry) (m : Metric) : Except Error Registry :=
  if h : m.name ∈ r.names then .error (.duplicate m.name)
  else .ok ⟨r.metrics ++ [m], nodup_append_name r.nodup h⟩

end Registry

end Yardstick
