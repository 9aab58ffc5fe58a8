import Yardstick.Proofs.Report.Missing

/-!
# Registries in another order

The order in which a registry accepted its metrics decides on the plan, on the cycle that is reported
and on the columns' order, and on nothing else: evaluated over the same frame, two registries with the
same metrics fail alike or give the same columns (`Registry.evaluate_perm`).
-/

namespace Yardstick

open Plan

/-! ## What does not depend on the order -/

section

variable {computed computed' : List ComputedMetric} {r r' : Registry} {f : Frame}

theorem Plan.cyclic_congr (hsame : ∀ m, m ∈ computed ↔ m ∈ computed') :
    Cyclic computed ↔ Cyclic computed' := by
  have hdepends : DependsOn computed = DependsOn computed' := by
    funext a b
    simp only [DependsOn, mem_names, hsame]
  unfold Cyclic Reaches
  rw [hdepends]

theorem Registry.lacking_congr (hsame : ∀ m, m ∈ r.computed ↔ m ∈ r'.computed) (m : ComputedMetric) :
    r.lacking f m = r'.lacking f m := by
  unfold lacking
  simp only [mem_names, hsame]

theorem Registry.readsNumbers_congr (hsame : ∀ m, m ∈ r.computed ↔ m ∈ r'.computed) :
    r.ReadsNumbers f ↔ r'.ReadsNumbers f := by
  unfold ReadsNumbers
  simp only [hsame]

theorem Registry.fails_of_cyclic (h : Cyclic r.computed) : FailsFor (r.evaluate f).outcome.1 .cycle := by
  obtain ⟨chain, hchain⟩ := plan_eq_error_of_cyclic h
  rw [outcome_evaluate, hchain]
  exact ⟨.cycle chain, rfl, rfl⟩

/-! ## Evaluating -/

/-- Two registries that accepted the same metrics, in whatever orders, fail both for a cycle, or both
for a dependency that is not resolved, or give the same columns under the same names. -/
theorem Registry.evaluate_perm (h : r.metrics.Perm r'.metrics) (hnumbers : r.ReadsNumbers f) :
    (FailsFor (r.evaluate f).outcome.1 .cycle ∧ FailsFor (r'.evaluate f).outcome.1 .cycle) ∨
    (FailsFor (r.evaluate f).outcome.1 .unresolved ∧
      FailsFor (r'.evaluate f).outcome.1 .unresolved) ∨
    ∃ g g', (r.evaluate f).outcome.1 = .ok g ∧ (r'.evaluate f).outcome.1 = .ok g' ∧
      (∀ name, name ∈ g.names ↔ name ∈ g'.names) ∧ g.rows = g'.rows ∧
      ∀ name, g.columns.get? name = g'.columns.get? name := by
  have hsame (m : ComputedMetric) : m ∈ r.computed ↔ m ∈ r'.computed := (h.filterMap _).mem_iff
  have hnumbers' : r'.ReadsNumbers f := (readsNumbers_congr hsame).1 hnumbers
  by_cases hcyclic : Cyclic r.computed
  · exact .inl ⟨fails_of_cyclic hcyclic, fails_of_cyclic ((cyclic_congr hsame).1 hcyclic)⟩
  have hcyclic' : ¬ Cyclic r'.computed := fun h => hcyclic ((cyclic_congr hsame).2 h)
  by_cases hlacks : ∃ m ∈ r.computed, r.lacking f m ≠ []
  · obtain ⟨m, hm, hne⟩ := hlacks
    have hne' : r'.lacking f m ≠ [] := lacking_congr hsame m ▸ hne
    obtain ⟨_, _, -, -, hrun⟩ := outcome_of_lacking hcyclic hnumbers hm hne
    obtain ⟨_, _, -, -, hrun'⟩ := outcome_of_lacking hcyclic' hnumbers' ((hsame m).1 hm) hne'
    exact .inr (.inl ⟨⟨_, hrun, rfl⟩, ⟨_, hrun', rfl⟩⟩)
  · have hprovided : ∀ m ∈ r.computed, r.lacking f m = [] := by
      intro m hm
      by_contra hne
      exact hlacks ⟨m, hm, hne⟩
    have hprovided' : ∀ m ∈ r'.computed, r'.lacking f m = [] := fun m hm =>
      lacking_congr hsame m ▸ hprovided m ((hsame m).2 hm)
    obtain ⟨g, hg, hfills⟩ := outcome_of_provided hcyclic hnumbers hprovided
    obtain ⟨g', hg', hfills'⟩ := outcome_of_provided hcyclic' hnumbers' hprovided'
    have hcolumns : ∀ name, g.columns.get? name = g'.columns.get? name :=
      hfills.unique (wellFounded_of_not_cyclic hcyclic) (hfills'.congr fun m => (hsame m).symm)
    exact .inr (.inr ⟨g, g', hg, hg', fun name => Frame.mem_names_congr (hcolumns name),
      hfills.rows.trans hfills'.rows.symm, hcolumns⟩)

end

/-- A density of yields, accepted before the yield, and a waste that reads no computed metric. -/
def densityFirst : Registry where
  metrics :=
    [.computed ⟨"density", "Density", "", "harvest", .rate, "yield", "area", by decide, by decide,
      by decide, by decide, by decide⟩,
     .computed ⟨"yield", "Yield", "", "harvest", .average, "apples", "trees", by decide, by decide,
      by decide, by decide, by decide⟩,
     .computed ⟨"waste", "Waste", "", "harvest", .rate, "apples", "area", by decide, by decide,
      by decide, by decide, by decide⟩]
  nodup := by decide

/-- The same metrics, accepted the other way round. -/
def wasteFirst : Registry := ⟨densityFirst.metrics.reverse, by decide⟩

def orchardFrame : Frame :=
  let apples := (Frame.ofRows 3).put "apples" (.floats [7.0, 0.0, 1.0 / 0.0]) rfl
  let trees := apples.put "trees" (.ints [2, 0, 5]) rfl
  trees.put "area" (.mixed [.text "10", .bool true, .missing]) rfl

/-- The waste comes last in one result and first in the other, with the same cells. -/
theorem Registry.evaluate_perm_orchardFrame :
    densityFirst.metrics.Perm wasteFirst.metrics ∧ densityFirst.ReadsNumbers orchardFrame ∧
    ∃ g g', (densityFirst.evaluate orchardFrame).outcome.1 = .ok g ∧
      (wasteFirst.evaluate orchardFrame).outcome.1 = .ok g' ∧
      g.names = ["apples", "trees", "area", "yield", "density", "waste"] ∧
      g'.names = ["apples", "trees", "area", "waste", "yield", "density"] ∧
      ∀ name, g.columns.get? name = g'.columns.get? name := by
  have hperm : densityFirst.metrics.Perm wasteFirst.metrics := (List.reverse_perm _).symm
  have hnumbers : densityFirst.ReadsNumbers orchardFrame := by decide +kernel
  have hnames : (densityFirst.evaluate orchardFrame).outcome.1.map Frame.names =
      .ok ["apples", "trees", "area", "yield", "density", "waste"] := by
    rw [Registry.outcome_evaluate]
    decide +kernel
  have hnames' : (wasteFirst.evaluate orchardFrame).outcome.1.map Frame.names =
      .ok ["apples", "trees", "area", "waste", "yield", "density"] := by
    rw [Registry.outcome_evaluate]
    decide +kernel
  obtain ⟨g, hg, hgnames⟩ := map_eq_ok.1 hnames
  obtain ⟨g', hg', hgnames'⟩ := map_eq_ok.1 hnames'
  refine ⟨hperm, hnumbers, g, g', hg, hg', hgnames, hgnames', ?_⟩
  rcases Registry.evaluate_perm hperm hnumbers with ⟨⟨e, he, -⟩, -⟩ | ⟨⟨e, he, -⟩, -⟩ | h
  · cases he.symm.trans hg
  · cases he.symm.trans hg
  · obtain ⟨h₁, h₂, hh₁, hh₂, -, -, hcolumns⟩ := h
    obtain rfl := Except.ok.inj (hh₁.symm.trans hg)
    obtain rfl := Except.ok.inj (hh₂.symm.trans hg')
    exact hcolumns

end Yardstick
