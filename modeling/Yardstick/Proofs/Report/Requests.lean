import Mathlib.Tactic.SplitIfs
import Yardstick.Proofs.Outcome
import Yardstick.Report.Build

/-!
# Requests and the metrics they make

What a dimension is asked for is a list of requests, each of which makes its metric on its own
(`Request.make`). All but the two texts of the metric is settled without a translator: `Request.outline`
makes the metric without its texts, and agrees with `make` wherever that gives a metric
(`Request.outline_of_make`).
-/

namespace Yardstick

/-- One metric asked for. -/
inductive Request
  | aggregation (a : Aggregation)
  | custom (c : CustomRequest)
  | computed (c : ComputedRequest)

/-- What is asked for of a dimension, in the order in which it is met. -/
def DimensionRequest.requests (q : DimensionRequest) : List Request :=
  q.aggregations.map .aggregation ++ q.custom.map .custom ++ q.computed.map .computed

/-- The metric of a request of one dimension, built on its own. -/
def Request.make (d : Dimension) (t : Translator) : Request → Except Fault Metric
  | .aggregation a => (d.baseMetric t a).map .base
  | .custom c => (d.customMetric c.name c.label c.template c.documentation).map .base
  | .computed c => (computedMetric c.numerator c.denominator c.formula d.category t).map .computed

theorem DimensionRequest.attempts_eq (q : DimensionRequest) (t : Translator) :
    q.attempts t = q.requests.map (Request.make q.dimension t) := by
  unfold attempts requests
  simp only [List.map_append, List.map_map]
  rfl

/-! ## Metrics without texts -/

def BaseMetric.withoutTexts (m : BaseMetric) : BaseMetric := { m with label := "", documentation := "" }

def ComputedMetric.withoutTexts (m : ComputedMetric) : ComputedMetric :=
  { m with label := "", documentation := "" }

/-- All of a metric but its label and its documentation. -/
def Metric.withoutTexts : Metric → Metric
  | base m => base m.withoutTexts
  | computed m => computed m.withoutTexts

section

variable {name label documentation category expression : String} {aggregation : Option Aggregation}
  {formula : Formula} {dependencies : List String} {d : Dimension} {t : Translator} {x : Request}
  {m : Metric}

@[simp] theorem Metric.category_withoutTexts (m : Metric) : m.withoutTexts.category = m.category := by
  cases m <;> rfl

theorem BaseMetric.make_withoutTexts {m : BaseMetric}
    (h : make name label documentation category expression aggregation = .ok m) :
    make name "" "" category expression aggregation = .ok m.withoutTexts := by
  unfold make at h ⊢
  split_ifs at h ⊢
  cases h
  rfl

theorem ComputedMetric.make_withoutTexts {m : ComputedMetric}
    (h : make name label documentation category formula dependencies = .ok m) :
    make name "" "" category formula dependencies = .ok m.withoutTexts := by
  unfold make at h ⊢
  split_ifs at h ⊢
  split at h
  · split_ifs at h ⊢
    cases h
    rfl
  · cases h

/-- The metric of a request without its texts, for which no translator is needed. -/
def Request.outline (d : Dimension) : Request → Except Fault Metric
  | .aggregation a => do
    let name ← liftError (baseName a d.module d.id)
    let column ← liftError d.columnExpression
    (liftError (BaseMetric.make name "" "" d.category (a.expression column) a)).map .base
  | .custom c => do
    let column ← liftError d.columnExpression
    let expression ← liftError (substitute c.template column)
    (liftError (BaseMetric.make c.name "" "" d.category expression none)).map .base
  | .computed c =>
    (liftError (ComputedMetric.make (computedName c.numerator c.denominator c.formula) "" "" d.category
      c.formula [c.numerator, c.denominator])).map .computed

theorem Request.outline_of_make (h : x.make d t = .ok m) : x.outline d = .ok m.withoutTexts := by
  cases x with
  | aggregation a =>
    obtain ⟨b, hb, rfl⟩ := map_eq_ok.1 h
    unfold Dimension.baseMetric at hb
    obtain ⟨name, hname, hb⟩ := bind_eq_ok.1 hb
    obtain ⟨label, -, hb⟩ := bind_eq_ok.1 hb
    obtain ⟨documentation, -, hb⟩ := bind_eq_ok.1 hb
    obtain ⟨column, hcolumn, hb⟩ := bind_eq_ok.1 hb
    have hmake := BaseMetric.make_withoutTexts (mapError_eq_ok.1 hb)
    refine bind_eq_ok.2 ⟨name, hname, bind_eq_ok.2 ⟨column, hcolumn, ?_⟩⟩
    exact map_eq_ok.2 ⟨_, mapError_eq_ok.2 hmake, rfl⟩
  | custom c =>
    obtain ⟨b, hb, rfl⟩ := map_eq_ok.1 h
    unfold Dimension.customMetric at hb
    obtain ⟨column, hcolumn, hb⟩ := bind_eq_ok.1 hb
    obtain ⟨expression, hexpression, hb⟩ := bind_eq_ok.1 hb
    have hmake := BaseMetric.make_withoutTexts (mapError_eq_ok.1 hb)
    refine bind_eq_ok.2 ⟨column, hcolumn, bind_eq_ok.2 ⟨expression, hexpression, ?_⟩⟩
    exact map_eq_ok.2 ⟨_, mapError_eq_ok.2 hmake, rfl⟩
  | computed c =>
    obtain ⟨b, hb, rfl⟩ := map_eq_ok.1 h
    unfold computedMetric at hb
    obtain ⟨label, -, hb⟩ := bind_eq_ok.1 hb
    obtain ⟨documentation, -, hb⟩ := bind_eq_ok.1 hb
    have hmake := ComputedMetric.make_withoutTexts (mapError_eq_ok.1 hb)
    exact map_eq_ok.2 ⟨_, mapError_eq_ok.2 hmake, rfl⟩

theorem BaseMetric.make_eq_ok {m : BaseMetric}
    (h : make name label documentation category expression aggregation = .ok m) :
    m.name = name ∧ m.category = category := by
  unfold make at h
  split_ifs at h
  cases h
  exact ⟨rfl, rfl⟩

theorem ComputedMetric.make_eq_ok {m : ComputedMetric}
    (h : make name label documentation category formula dependencies = .ok m) :
    m.name = name ∧ m.category = category ∧ m.dependencies = dependencies := by
  unfold make at h
  split_ifs at h
  split at h
  · split_ifs at h
    cases h
    exact ⟨rfl, rfl, rfl⟩
  · cases h

/-- Every metric has the category of the dimension that it was asked for. -/
theorem Request.category_of_make (h : x.make d t = .ok m) : m.category = d.category := by
  have houtline := outline_of_make h
  rw [← m.category_withoutTexts]
  cases x with
  | aggregation a =>
    obtain ⟨_, -, houtline⟩ := bind_eq_ok.1 houtline
    obtain ⟨_, -, houtline⟩ := bind_eq_ok.1 houtline
    obtain ⟨b, hb, hm⟩ := map_eq_ok.1 houtline
    exact hm ▸ (BaseMetric.make_eq_ok (mapError_eq_ok.1 hb)).2
  | custom c =>
    obtain ⟨_, -, houtline⟩ := bind_eq_ok.1 houtline
    obtain ⟨_, -, houtline⟩ := bind_eq_ok.1 houtline
    obtain ⟨b, hb, hm⟩ := map_eq_ok.1 houtline
    exact hm ▸ (BaseMetric.make_eq_ok (mapError_eq_ok.1 hb)).2
  | computed c =>
    obtain ⟨b, hb, hm⟩ := map_eq_ok.1 houtline
    exact hm ▸ (ComputedMetric.make_eq_ok (mapError_eq_ok.1 hb)).2.1

end

end Yardstick
