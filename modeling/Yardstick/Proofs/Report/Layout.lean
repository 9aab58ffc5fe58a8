import Yardstick.Proofs.Report.Reordering

/-!
# The layout of a result

Each step of an evaluation puts one column: in the place of a column of that name, or at the end
(`Frame.names_of_extend`). Over a whole plan the columns of the frame stay where they are, the names that
are new follow in the order of the plan, and columns that are not of computed metrics are those of the
frame, cells and type, whatever was read from them (`Registry.layout_of_evaluate`).
-/

namespace Yardstick

open Plan

theorem Table.keys_put {α : Type} (t : Table α) (key : String) (value : α) :
    (t.put key value).keys = t.keys ++ [key].filter (· ∉ t.keys) := by
  by_cases hkey : key ∈ t.keys
  · rw [keys_put_of_mem t key value hkey]
    simp [hkey]
  · have hlast : (t.put key value).keys = t.keys ++ [key] := by
      rw [keys, entries_put_of_not_mem t key value hkey, List.map_append]
      rfl
    rw [hlast]
    simp [hkey]

namespace Frame

variable {f g : Frame} {m : ComputedMetric} {computed plan : List ComputedMetric}

theorem names_of_extend (h : f.extend m = .ok g) :
    g.names = f.names ++ [m.name].filter (· ∉ f.names) := by
  obtain ⟨-, c, -, hput⟩ := extend_eq_ok h
  rw [names, hput]
  exact Table.keys_put f.columns m.name c

theorem nodup_names (f : Frame) : f.names.Nodup := f.columns.nodup

/-- The new names of a plan follow those of the frame. The induction is on how the plan was put together:
the metric taken last has a name of its own in the plan, so its column is new exactly if the frame has
none of that name. -/
theorem names_of_evaluate (hplan : Ordered computed plan) (h : f.evaluate plan = .ok g) :
    g.names = f.names ++ (Plan.names plan).filter (· ∉ f.names) := by
  induction hplan generalizing g with
  | nil => cases h; exact (List.append_nil _).symm
  | @snoc plan m hplan hm hnew hdeps ih =>
    rw [evaluate_snoc] at h
    obtain ⟨g₁, hg₁, hextend⟩ := bind_eq_ok.1 h
    have hother : m.name ∈ g₁.names ↔ m.name ∈ f.names := by
      rw [ih hg₁, List.mem_append, List.mem_filter, or_iff_left fun h => hnew h.1]
    have hlast : [m.name].filter (· ∉ g₁.names) = [m.name].filter (· ∉ f.names) :=
      List.filter_congr fun name hname => by
        rw [List.mem_singleton.1 hname]
        exact decide_eq_decide.2 (not_congr hother)
    rw [names_of_extend hextend, hlast, ih hg₁, names_append, List.filter_append, List.append_assoc]
    rfl

end Frame

/-- A result has the rows of the frame. Its columns are those of the frame in their order, and after them
the computed metrics that were not among them, in the order of the plan; no name comes twice. A name that
is not of a computed metric has the column that it had, with its cells and their type. -/
theorem Registry.layout_of_evaluate {r : Registry} {f g : Frame}
    (h : (r.evaluate f).outcome.1 = .ok g) :
    g.rows = f.rows ∧
    (∃ plan, r.plan = .ok plan ∧ g.names = f.names ++ (Plan.names plan).filter (· ∉ f.names)) ∧
    g.names.Nodup ∧
    ∀ name ∉ Plan.names r.computed, g.columns.get? name = f.columns.get? name := by
  rw [Registry.outcome_evaluate] at h
  obtain ⟨plan, hplan, hrun⟩ := bind_eq_ok.1 h
  have hplan := mapError_eq_ok.1 hplan
  obtain ⟨hordered, -⟩ := ordered_of_plan_eq_ok hplan
  have hfills := Frame.fills_of_evaluate hordered hrun
  refine ⟨hfills.rows, ⟨plan, hplan, Frame.names_of_evaluate hordered hrun⟩, g.nodup_names, ?_⟩
  intro name hname
  exact hfills.kept name fun hplanned => hname (List.map_subset _ hordered.subset hplanned)

/-- Integers and texts that are read as doubles stay what they are. -/
theorem Registry.layout_of_evaluate_orchardFrame :
    ∃ g, (densityFirst.evaluate orchardFrame).outcome.1 = .ok g ∧ g.rows = 3 ∧
      g.names = ["apples", "trees", "area", "yield", "density", "waste"] ∧
      g.columns.get? "trees" = some (.ints [2, 0, 5]) ∧
      g.columns.get? "area" = some (.mixed [.text "10", .bool true, .missing]) := by
  have hok : (densityFirst.evaluate orchardFrame).outcome.1.isOk = true := by
    rw [Registry.outcome_evaluate]
    decide +kernel
  have hplanned : densityFirst.plan.map Plan.names = .ok ["yield", "density", "waste"] := by
    decide +kernel
  cases hg : (densityFirst.evaluate orchardFrame).outcome.1 with
  | error e => rw [hg] at hok; cases hok
  | ok g =>
    obtain ⟨hrows, ⟨plan, hplan, hnames⟩, -, hkept⟩ := Registry.layout_of_evaluate hg
    obtain ⟨plan', hplan', hplanned⟩ := map_eq_ok.1 hplanned
    obtain rfl := Except.ok.inj (hplan'.symm.trans hplan)
    rw [hplanned] at hnames
    exact ⟨g, rfl, hrows, hnames.trans (by decide), hkept "trees" (by decide), hkept "area" (by decide)⟩

end Yardstick
