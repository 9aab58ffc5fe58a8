import Yardstick.Proofs.Metric.Prefix
import Yardstick.Proofs.Plan.Visit
import Yardstick.Proofs.Report.Build

/-!
# Metrics resolved from names

The name of a resolved metric is made of its dependencies' names without their prefixes, so it may be
shorter than either of them. But no prefix holds the letter `r`, and each formula adds one of its own:
counting that letter ranks every resolved metric above its dependencies (`rank_computedName`). So
metrics that were all resolved, as those of every built report are, have no cycle and can be planned.
-/

namespace Yardstick

/-! ## Ranks of names -/

/-- How often the letter `r` stands in a name. -/
def rank (name : String) : Nat := name.toList.count 'r'

theorem rank_append (s t : String) : rank (s ++ t) = rank s + rank t := by
  unfold rank
  rw [String.toList_append, List.count_append]

theorem count_namePrefix : ∀ p ∈ namePrefixes, p.toList.count 'r' = 0 := by decide

theorem rank_withoutPrefix (name : String) : rank (withoutPrefix name) = rank name := by
  rcases eq_append_withoutPrefix name with h | ⟨p, hp, h⟩
  · rw [h]
  · have hcount : rank p = 0 := count_namePrefix p hp
    calc rank (withoutPrefix name) = rank (p ++ withoutPrefix name) := by
          rw [rank_append, hcount, Nat.zero_add]
      _ = rank name := by rw [← h]

/-- A computed metric ranks above the two it is named for. -/
theorem rank_computedName (numerator denominator : String) (f : Formula) :
    rank (computedName numerator denominator f) = rank numerator + rank denominator + 1 := by
  cases f with
  | average =>
    have hown : rank "avg_" = 0 ∧ rank "_per_" = 1 := by decide
    simp only [computedName, rank_append, rank_withoutPrefix, hown]
    omega
  | rate =>
    have hown : rank "_" = 0 ∧ rank "_rate" = 1 := by decide
    simp only [computedName, rank_append, rank_withoutPrefix, hown]
    omega

/-! ## Resolved metrics -/

variable {m : ComputedMetric} {numerator denominator name label documentation category : String}
  {formula : Formula} {t : Translator} {r : Registry}

theorem computedMetric_eq_ok (h : computedMetric numerator denominator formula category t = .ok m) :
    m.name = computedName numerator denominator formula ∧ m.dependencies = [numerator, denominator] := by
  unfold computedMetric at h
  obtain ⟨label, -, h⟩ := bind_eq_ok.1 h
  obtain ⟨documentation, -, h⟩ := bind_eq_ok.1 h
  obtain ⟨hname, -, hdependencies⟩ := ComputedMetric.make_eq_ok (mapError_eq_ok.1 h)
  exact ⟨hname, hdependencies⟩

/-- The metric is what two names were resolved to, with some translator. -/
def ComputedMetric.IsResolved (m : ComputedMetric) : Prop :=
  ∃ numerator denominator formula category t,
    computedMetric numerator denominator formula category t = .ok m

theorem ComputedMetric.IsResolved.rank_lt (h : m.IsResolved) {d : String} (hd : d ∈ m.dependencies) :
    rank d < rank m.name := by
  obtain ⟨numerator, denominator, formula, category, t, hm⟩ := h
  obtain ⟨hname, hdeps⟩ := computedMetric_eq_ok hm
  rw [hname, rank_computedName]
  rw [hdeps, List.mem_pair] at hd
  rcases hd with rfl | rfl <;> omega

theorem Registry.not_cyclic_of_resolved (h : ∀ m ∈ r.computed, m.IsResolved) :
    ¬ Plan.Cyclic r.computed := by
  refine Plan.not_cyclic_of_rank rank fun a b hab => ?_
  obtain ⟨m, hm, rfl, hb, -⟩ := hab
  exact (h m hm).rank_lt hb

/-- The computed metrics of a built report were resolved. -/
theorem ReportDefinition.resolved_of_build {d : ReportDefinition} (h : (d.build t).outcome.1 = .ok r) :
    ∀ m ∈ r.computed, m.IsResolved := by
  intro m hm
  obtain ⟨metric, hmetric, hcomputed⟩ := List.mem_filterMap.1 hm
  obtain rfl : metric = .computed m := by
    cases metric with
    | base b => cases hcomputed
    | computed c => cases hcomputed; rfl
  obtain ⟨q, -, x, -, hmake⟩ := d.exists_request_of_build h hmetric
  cases x with
  | aggregation a => obtain ⟨b, -, hb⟩ := map_eq_ok.1 hmake; cases hb
  | custom c => obtain ⟨b, -, hb⟩ := map_eq_ok.1 hmake; cases hb
  | computed c =>
    obtain ⟨m', hm', hm'm⟩ := map_eq_ok.1 hmake
    cases hm'm
    exact ⟨_, _, _, _, _, hm'⟩

/-! ## Evaluating resolved metrics -/

/-- Whatever is wrong with a frame, it is no cycle. -/
theorem Frame.evaluate_ne_cycle (f : Frame) (plan : List ComputedMetric) (chain : List String) :
    f.evaluate plan ≠ .error (.error (.cycle chain)) := by
  unfold Frame.evaluate
  induction plan generalizing f with
  | nil => intro h; cases h
  | cons m plan ih =>
    rw [List.foldlM_cons]
    cases hf : f.extend m with
    | ok g => exact ih g
    | error e =>
      intro h
      obtain rfl : e = .error (.cycle chain) := Except.error.inj h
      unfold Frame.extend at hf
      split at hf
      · split at hf
        · cases hf
        · cases hf
        · simp only at hf
          split at hf <;> cases hf
      · cases hf

theorem Registry.evaluate_ne_cycle_of_plan {plan : List ComputedMetric} (h : r.plan = .ok plan)
    (f : Frame) (chain : List String) :
    (r.evaluate f).outcome.1 ≠ .error (.error (.cycle chain)) := by
  rw [Registry.outcome_evaluate, h]
  exact f.evaluate_ne_cycle plan chain

/-- Metrics resolved from any names, by any formulas, in any categories and with any translators have
no cycle among them, and so have the metrics of every report that could be built. They can always be
planned, and evaluating them never fails for a cycle. -/
theorem Registry.plannable_of_resolved_or_built
    (h : (∀ m ∈ r.computed, m.IsResolved) ∨ ∃ d t, (ReportDefinition.build d t).outcome.1 = .ok r) :
    ¬ Plan.Cyclic r.computed ∧ (∃ plan, r.plan = .ok plan) ∧
      ∀ f chain, (r.evaluate f).outcome.1 ≠ .error (.error (.cycle chain)) := by
  have hresolved : ∀ m ∈ r.computed, m.IsResolved := by
    rcases h with h | ⟨d, t, h⟩
    · exact h
    · exact d.resolved_of_build h
  have hcyclic := Registry.not_cyclic_of_resolved hresolved
  obtain ⟨plan, hplan⟩ := Plan.plan_eq_ok_of_not_cyclic hcyclic
  exact ⟨hcyclic, ⟨plan, hplan⟩, Registry.evaluate_ne_cycle_of_plan hplan⟩

/-- A report with a rate of an average, whose names still start with prefixes when one has been taken
off. -/
def nestedReport : ReportDefinition where
  id := "nested"
  dimensions :=
    [{ dimension := ⟨"country", "User", "users", none, none, some "country", "Country", none⟩
       aggregations := [.count]
       custom := []
       computed := [⟨"nb_uniq_nb_x", "nb_y", .average⟩, ⟨"avg_nb_x_per_y", "sum_nb_z", .rate⟩] }]

theorem Registry.plannable_of_nestedReport :
    ∃ r, (nestedReport.build (.ofCatalogs [] "en" "en")).outcome.1 = .ok r ∧
      Plan.names r.computed = ["avg_nb_x_per_y", "avg_nb_x_per_y_nb_z_rate"] ∧
      ¬ Plan.Cyclic r.computed ∧ (∃ plan, r.plan = .ok plan) ∧
      ∀ f chain, (r.evaluate f).outcome.1 ≠ .error (.error (.cycle chain)) := by
  have hnames : (nestedReport.registry (.ofCatalogs [] "en" "en")).map (Plan.names ·.computed) =
      .ok ["avg_nb_x_per_y", "avg_nb_x_per_y_nb_z_rate"] := by decide +kernel
  obtain ⟨r, hr, hnames⟩ := map_eq_ok.1 hnames
  have hbuild := (nestedReport.yields_build (.ofCatalogs [] "en" "en")).outcome.trans hr
  exact ⟨r, hbuild, hnames, Registry.plannable_of_resolved_or_built (.inr ⟨_, _, hbuild⟩)⟩

end Yardstick
