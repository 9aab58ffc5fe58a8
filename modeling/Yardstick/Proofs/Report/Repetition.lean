import Yardstick.Proofs.Frame.Value

/-!
# Evaluating a result again

In a result every computed column is what its metric makes of the result itself. Evaluated once more,
each metric so puts the column that is there, whatever the plan and whichever columns the first frame
had under the names of computed metrics: the result stays as it is (`Registry.evaluate_of_evaluate`).
-/

namespace Yardstick

namespace Frame

variable {f g : Frame} {m : ComputedMetric} {metrics : List ComputedMetric}

theorem eq_of_columns_eq (hrows : g.rows = f.rows) (hcolumns : g.columns = f.columns) : g = f := by
  obtain ⟨rows, columns, aligned⟩ := g
  obtain rfl : rows = f.rows := hrows
  obtain rfl : columns = f.columns := hcolumns
  rfl

/-- A metric whose column is there already changes nothing. -/
theorem extend_self {c : Column} (hc : g.quotient? m = some c) (hget : g.columns.get? m.name = some c) :
    g.extend m = .ok g := by
  obtain ⟨ns, hns, hrest⟩ := Option.bind_eq_some_iff.1 hc
  obtain ⟨ds, hds, -⟩ := Option.bind_eq_some_iff.1 hrest
  obtain ⟨h, hextend⟩ := exists_extend hns hds
  obtain ⟨hrows, c', hc', hput⟩ := extend_eq_ok hextend
  obtain rfl : c = c' := Option.some.inj (hc.symm.trans hc')
  rw [Table.put_of_get? hget] at hput
  rw [hextend, eq_of_columns_eq hrows hput]

/-- A frame that solves the equations of its metrics stays as it is when they are evaluated over it. The
induction is on those that are still to be evaluated. -/
theorem Fills.evaluate_self (hfills : g.Fills metrics f) : g.evaluate metrics = .ok g := by
  have hstep : ∀ m ∈ metrics, g.extend m = .ok g := fun m hm => by
    obtain ⟨c, hc, hget⟩ := hfills.filled m hm
    exact extend_self hc hget
  clear hfills
  unfold evaluate
  induction metrics with
  | nil => rfl
  | cons m metrics ih =>
    rw [List.forall_mem_cons] at hstep
    rw [List.foldlM_cons, hstep.1]
    exact ih hstep.2

end Frame

/-- What an evaluation gives is given again when it is evaluated itself: the same columns in the same
order, with the same cells. -/
theorem Registry.evaluate_of_evaluate {r : Registry} {f g : Frame}
    (h : (r.evaluate f).outcome.1 = .ok g) : (r.evaluate g).outcome.1 = .ok g := by
  rw [Registry.outcome_evaluate] at h ⊢
  obtain ⟨plan, hplan, hrun⟩ := bind_eq_ok.1 h
  obtain ⟨hordered, -⟩ := Plan.ordered_of_plan_eq_ok (mapError_eq_ok.1 hplan)
  rw [hplan]
  exact (Frame.fills_of_evaluate hordered hrun).evaluate_self

/-- The first evaluation replaces the integers in the place of the average, the second one finds both
computed columns, not-a-number among their cells. -/
theorem Registry.evaluate_of_evaluate_zerosFrame :
    ∃ g, (unsortedRegistry.evaluate zerosFrame).outcome.1 = .ok g ∧
      g.names = ["sum", "count", "mean", "share"] ∧ (unsortedRegistry.evaluate g).outcome.1 = .ok g := by
  have hnames : (unsortedRegistry.evaluate zerosFrame).outcome.1.map Frame.names =
      .ok ["sum", "count", "mean", "share"] := by
    rw [Registry.outcome_evaluate]
    decide +kernel
  obtain ⟨g, hg, hgnames⟩ := map_eq_ok.1 hnames
  exact ⟨g, hg, hgnames, Registry.evaluate_of_evaluate hg⟩

end Yardstick
