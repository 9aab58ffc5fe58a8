import Yardstick.Proofs.Plan.Resolved
import Yardstick.Proofs.Report.Build

/-!
# Texts decide on nothing

Planning and evaluating do not look at labels and documentations: they do the same to metrics without
their texts (`Plan.ofMetrics_map`, `Frame.evaluate_map`). As a translator settles these two texts only,
the reports that two translators build of one definition have the same metrics but for their texts,
the same plan and the same values.
-/

namespace Yardstick

/-! ## Planning and evaluating metrics without texts -/

section

variable {computed plan : List ComputedMetric} {m : ComputedMetric} {name : String}

theorem Plan.names_map (metrics : List ComputedMetric) :
    names (metrics.map ComputedMetric.withoutTexts) = names metrics := by
  unfold names
  rw [List.map_map]
  rfl

theorem Plan.find?_map (computed : List ComputedMetric) (name : String) :
    (computed.map ComputedMetric.withoutTexts).find? (·.name = name) =
      (computed.find? (·.name = name)).map ComputedMetric.withoutTexts :=
  List.find?_map

theorem Plan.any_map (plan : List ComputedMetric) (name : String) :
    (plan.map ComputedMetric.withoutTexts).any (·.name = name) = plan.any (·.name = name) :=
  List.any_map

/-- The induction follows the visits of the metrics with their texts. -/
theorem Plan.visit_map (computed : List ComputedMetric) (path : List String)
    (plan : List ComputedMetric) (name : String) :
    visit (computed.map ComputedMetric.withoutTexts) path (plan.map ComputedMetric.withoutTexts) name =
      (visit computed path plan name).map (List.map ComputedMetric.withoutTexts) := by
  fun_induction visit computed path plan name with
  | case1 path plan name hfind =>
    rw [visit]
    split
    · rfl
    · next m' hm' => rw [find?_map, hfind] at hm'; cases hm'
  | case2 path plan name m hfind hplanned =>
    rw [visit]
    split
    · rfl
    · rw [if_pos (by rw [any_map]; exact hplanned)]
      rfl
  | case3 path plan name m hfind hnew hpath =>
    rw [visit]
    split
    · next hnone => rw [find?_map, hfind] at hnone; cases hnone
    · rw [if_neg (by rw [any_map]; exact hnew), dif_pos hpath]
      rfl
  | case4 path plan name m hfind hnew hpath ihn ihd =>
    rw [visit]
    split
    · next hnone => rw [find?_map, hfind] at hnone; cases hnone
    · next m' hm' =>
      rw [find?_map, hfind] at hm'
      obtain rfl : m.withoutTexts = m' := Option.some.inj hm'
      rw [if_neg (by rw [any_map]; exact hnew), dif_neg hpath]
      refine bind_eq_map_bind ihn fun plan₁ => bind_eq_map_bind (ihd plan₁) fun plan₂ => ?_
      show Except.ok _ = Except.ok _
      rw [List.map_append]
      rfl

theorem Plan.ofMetrics_map (computed : List ComputedMetric) :
    ofMetrics (computed.map ComputedMetric.withoutTexts) =
      (ofMetrics computed).map (List.map ComputedMetric.withoutTexts) := by
  have hfold (l plan : List ComputedMetric) :
      (l.map ComputedMetric.withoutTexts).foldlM
          (fun plan m => visit (computed.map ComputedMetric.withoutTexts) [] plan m.name)
          (plan.map ComputedMetric.withoutTexts) =
        (l.foldlM (fun plan m => visit computed [] plan m.name) plan).map
          (List.map ComputedMetric.withoutTexts) := by
    induction l generalizing plan with
    | nil => rfl
    | cons m l ih =>
      rw [List.map_cons, List.foldlM_cons, List.foldlM_cons]
      exact bind_eq_map_bind (visit_map computed [] plan m.name) ih
  exact hfold computed []

theorem Frame.evaluate_map (f : Frame) (plan : List ComputedMetric) :
    f.evaluate (plan.map ComputedMetric.withoutTexts) = f.evaluate plan := by
  unfold evaluate
  rw [List.foldlM_map]
  rfl

end

/-! ## Registries of metrics without texts -/

namespace Registry

variable {r r' : Registry}

theorem map_computed (r : Registry) : r.computed.map ComputedMetric.withoutTexts =
    (r.metrics.map Metric.withoutTexts).filterMap Metric.computed? := by
  unfold computed
  rw [List.map_filterMap, List.filterMap_map]
  refine List.filterMap_congr fun m _ => ?_
  cases m <;> rfl

/-- Registries whose metrics differ in texts only have the same plans but for texts. -/
theorem plan_map_of_sameButTexts
    (h : r.metrics.map Metric.withoutTexts = r'.metrics.map Metric.withoutTexts) :
    r.plan.map (List.map ComputedMetric.withoutTexts) =
      r'.plan.map (List.map ComputedMetric.withoutTexts) := by
  unfold plan
  rw [← Plan.ofMetrics_map, ← Plan.ofMetrics_map, map_computed, map_computed, h]

/-- What becomes of a frame does not depend on texts. -/
theorem outcome_evaluate_map (r : Registry) (f : Frame) : (r.evaluate f).outcome.1 =
    (r.plan.map (List.map ComputedMetric.withoutTexts)).mapError .error >>= f.evaluate := by
  rw [outcome_evaluate]
  cases r.plan with
  | error e => rfl
  | ok plan => exact (f.evaluate_map plan).symm

end Registry

/-! ## Reports in two languages -/

/-- Two translators that both let a report be built, whatever catalogs, locales and fallbacks they
have, give it the same metrics but for labels and documentations, one by one. So the report has the
same plan by names, and the same values over every frame. -/
theorem ReportDefinition.build_sameButTexts {d : ReportDefinition} {t t' : Translator} {r r' : Registry}
    (h : (d.build t).outcome.1 = .ok r) (h' : (d.build t').outcome.1 = .ok r') :
    r.metrics.map Metric.withoutTexts = r'.metrics.map Metric.withoutTexts ∧
    (∃ plan plan', r.plan = .ok plan ∧ r'.plan = .ok plan' ∧ Plan.names plan = Plan.names plan') ∧
    ∀ f, (r.evaluate f).outcome.1 = (r'.evaluate f).outcome.1 := by
  have houtline {t : Translator} {r : Registry} (h : (d.build t).outcome.1 = .ok r) :
      (d.dimensions.flatMap fun q => q.requests.map (Request.outline q.dimension)) =
        (r.metrics.map Metric.withoutTexts).map .ok := by
    rw [List.map_map]
    exact flatMap_requests_of_answers (fun _ _ _ => Request.outline_of_make)
      (outcome_build_eq_ok_iff.1 h)
  have hmetrics : r.metrics.map Metric.withoutTexts = r'.metrics.map Metric.withoutTexts :=
    (List.map_inj_right fun _ _ => Except.ok.inj).1 ((houtline h).symm.trans (houtline h'))
  have hplans := Registry.plan_map_of_sameButTexts hmetrics
  refine ⟨hmetrics, ?_, fun f => ?_⟩
  · have hacyclic := Registry.not_cyclic_of_resolved (d.resolved_of_build h)
    obtain ⟨plan, hplan⟩ := Plan.plan_eq_ok_of_not_cyclic hacyclic
    rw [hplan] at hplans
    obtain ⟨plan', hplan', hsame⟩ := map_eq_ok.1 hplans.symm
    refine ⟨plan, plan', hplan, hplan', ?_⟩
    rw [← Plan.names_map plan, ← Plan.names_map plan', hsame]
  · rw [Registry.outcome_evaluate_map, Registry.outcome_evaluate_map, hplans]

/-- Texts for the templates, the dimension and one of the computed metrics of `nestedReport`. -/
def frenchCatalog : Catalog where
  locale := "fr"
  messages := .ofList [("Country", "Pays"), ("Metric_Count", "Nombre de \x7bplural\x7d")]
  contexts := .ofList [("average", .ofList [("nb_uniq_nb_x", "Moyenne")])]

theorem ReportDefinition.build_sameButTexts_nestedReport :
    ∃ r r', (nestedReport.build (.ofCatalogs [] "en" "en")).outcome.1 = .ok r ∧
      (nestedReport.build (.ofCatalogs [frenchCatalog] "fr" "en")).outcome.1 = .ok r' ∧
      r.metrics.map Metric.label = ["Country", "Avg. nb_uniq_nb_x per nb_y", "avg_nb_x_per_y Rate"] ∧
      r'.metrics.map Metric.label = ["Nombre de Pays", "Moyenne", "avg_nb_x_per_y Rate"] ∧
      r.metrics.map Metric.withoutTexts = r'.metrics.map Metric.withoutTexts ∧
      (∃ plan plan', r.plan = .ok plan ∧ r'.plan = .ok plan' ∧ Plan.names plan = Plan.names plan') ∧
      ∀ f, (r.evaluate f).outcome.1 = (r'.evaluate f).outcome.1 := by
  have hlabels : (nestedReport.registry (.ofCatalogs [] "en" "en")).map (·.metrics.map Metric.label) =
      .ok ["Country", "Avg. nb_uniq_nb_x per nb_y", "avg_nb_x_per_y Rate"] := by decide +kernel
  have hlabels' : (nestedReport.registry (.ofCatalogs [frenchCatalog] "fr" "en")).map
      (·.metrics.map Metric.label) = .ok ["Nombre de Pays", "Moyenne", "avg_nb_x_per_y Rate"] := by
    decide +kernel
  obtain ⟨r, hr, hlabels⟩ := map_eq_ok.1 hlabels
  obtain ⟨r', hr', hlabels'⟩ := map_eq_ok.1 hlabels'
  have hbuild := (nestedReport.yields_build (.ofCatalogs [] "en" "en")).outcome.trans hr
  have hbuild' :=
    (nestedReport.yields_build (.ofCatalogs [frenchCatalog] "fr" "en")).outcome.trans hr'
  exact ⟨r, r', hbuild, hbuild', hlabels, hlabels', ReportDefinition.build_sameButTexts hbuild hbuild'⟩

end Yardstick
