import Yardstick.Proofs.Frame.Columns
import Yardstick.Proofs.Plan.Visit
import Yardstick.Proofs.Report.Registry

/-!
# What the cells of a result mean

`Registry.value` is the plain meaning of a name in a row: the cell of the frame, unless a computed
metric has the name; then what the metric makes of the values of its two dependencies. A result is
computed otherwise, whole columns at a time and each from the columns that are there by then, and
means the same (`Registry.cell?_of_evaluate`).
-/

namespace Yardstick

/-- The value that a cell stands for. -/
def Cell.value : Cell → Json
  | missing => .float (0.0 / 0.0)
  | bool b => .bool b
  | int n => .int n
  | float x => .float x
  | text s => .str s

/-- The cell of a column in a row. -/
def Frame.cell? (f : Frame) (name : String) (row : Nat) : Option Cell :=
  (f.columns.get? name).bind (·.cells[row]?)

/-- The value of a name in a row, by recursion over what it needs. -/
def Registry.value (r : Registry) (hr : WellFounded fun b a => Plan.Needs r.computed a b) (f : Frame)
    (row : Nat) (name : String) : Option Json :=
  match _ : r.computed.find? (·.name = name) with
  | none => (f.cell? name row).map Cell.value
  | some m => do
    let n ← r.value hr f row m.numerator
    let d ← r.value hr f row m.denominator
    let x ← (m.evaluate [(m.numerator, n), (m.denominator, d)]).toOption
    return .float x
  termination_by hr.wrap name
  decreasing_by
    · exact Plan.needs_of_find? ‹_› List.mem_cons_self
    · exact Plan.needs_of_find? ‹_› (List.mem_cons_of_mem _ List.mem_cons_self)

/-! ## Columns as cells -/

theorem Cell.toFloat_value (c : Cell) : c.value.toFloat = c.toFloat := by cases c <;> rfl

/-- A column of numbers has one in every row. -/
theorem Column.toFloats_getElem? {c : Column} {xs : List Float} {row : Nat} (h : c.toFloats = .ok xs)
    (hrow : row < c.size) :
    ∃ cell x, c.cells[row]? = some cell ∧ xs[row]? = some x ∧ cell.toFloat = .ok x := by
  have hcell : row < c.cells.length := by rw [c.length_cells]; exact hrow
  have hx : row < xs.length := by rw [Column.length_toFloats h]; exact hrow
  have hmap := congrArg (·[row]?) (floatsOf_eq_ok.1 h)
  simp only [List.getElem?_map, List.getElem?_eq_getElem hcell, List.getElem?_eq_getElem hx,
    Option.map_some, Option.some.injEq] at hmap
  exact ⟨_, _, List.getElem?_eq_getElem hcell, List.getElem?_eq_getElem hx, hmap⟩

/-! ## Cells of computed columns -/

namespace ComputedMetric

variable (m : ComputedMetric)

theorem evaluate_eq_ok {n d : Json} {x y : Float} (hn : n.toFloat = .ok x) (hd : d.toFloat = .ok y) :
    m.evaluate [(m.numerator, n), (m.denominator, d)] = .ok (safeRatio x y * m.formula.scale) := by
  have hne : (m.denominator == m.numerator) = false := by simpa using m.distinct.symm
  simp only [ComputedMetric.evaluate, ComputedMetric.lookup, List.lookup_cons, beq_self_eq_true, hne,
    Option.elim_some]
  show (do
    let x ← n.toFloat.mapError Fault.number
    let y ← d.toFloat.mapError Fault.number
    return safeRatio x y * m.formula.scale) = _
  rw [hn, hd]
  rfl

end ComputedMetric

/-- A computed column holds in each row what its metric makes of that row. -/
theorem Frame.Fills.exists_cell? {f g : Frame} {plan : List ComputedMetric} {m : ComputedMetric}
    {row : Nat} (hfills : g.Fills plan f) (hm : m ∈ plan) (hrow : row < f.rows) :
    ∃ n d x, g.cell? m.numerator row = some n ∧ g.cell? m.denominator row = some d ∧
      m.evaluate [(m.numerator, n.value), (m.denominator, d.value)] = .ok x ∧
      g.cell? m.name row = some (.float x) := by
  obtain ⟨c, hc, hget⟩ := hfills.filled m hm
  obtain ⟨ns, hns, hc⟩ := Option.bind_eq_some_iff.1 hc
  obtain ⟨ds, hds, hc⟩ := Option.bind_eq_some_iff.1 hc
  obtain rfl := Option.some.inj hc
  obtain ⟨cn, hcn, hns⟩ := floats?_eq_some.1 hns
  obtain ⟨cd, hcd, hds⟩ := floats?_eq_some.1 hds
  rw [← hfills.rows] at hrow
  obtain ⟨n, x, hn, hx, hnx⟩ := Column.toFloats_getElem? hns (size_of_get? hcn ▸ hrow)
  obtain ⟨d, y, hd, hy, hdy⟩ := Column.toFloats_getElem? hds (size_of_get? hcd ▸ hrow)
  refine ⟨n, d, safeRatio x y * m.formula.scale, ?_, ?_, ?_, ?_⟩
  · rw [cell?, hcn]
    exact hn
  · rw [cell?, hcd]
    exact hd
  · exact m.evaluate_eq_ok (n.toFloat_value.trans hnx) (d.toFloat_value.trans hdy)
  · rw [cell?, hget]
    simp [Column.cells, List.getElem?_zipWith, hx, hy]

/-! ## Evaluating a plan -/

section

open Plan

variable {r : Registry} {hr : WellFounded fun b a => Needs r.computed a b} {f g : Frame}
  {m : ComputedMetric} {plan : List ComputedMetric} {name : String} {row : Nat} {c : Cell}

theorem Registry.value_of_not_mem (h : name ∉ Plan.names r.computed) :
    r.value hr f row name = (f.cell? name row).map Cell.value := by
  rw [Registry.value]
  split
  · rfl
  · next m hm => exact absurd hm (by rw [find?_eq_none.2 h]; exact nofun)

theorem Registry.value_of_mem (hm : m ∈ r.computed) :
    r.value hr f row m.name = do
      let n ← r.value hr f row m.numerator
      let d ← r.value hr f row m.denominator
      let x ← (m.evaluate [(m.numerator, n), (m.denominator, d)]).toOption
      return .float x := by
  rw [Registry.value]
  split
  · next hnone => exact absurd (name_mem_names hm) (find?_eq_none.1 hnone)
  · next m' hm' =>
    have hname : m'.name = m.name := by simpa using List.find?_some hm'
    rw [eq_of_name_eq (names_computed_nodup r) (List.mem_of_find?_eq_some hm') hm hname]

/-- A frame in which the columns of these metrics are final, and all others are those of `f`. -/
structure Registry.Settled (r : Registry) (hr : WellFounded fun b a => Needs r.computed a b)
    (f : Frame) (done : List ComputedMetric) (g : Frame) : Prop where
  rows : g.rows = f.rows
  final : ∀ name ∈ Plan.names done, ∀ row < f.rows,
    ∃ x, g.cell? name row = some (.float x) ∧ r.value hr f row name = some (.float x)
  kept : ∀ name ∉ Plan.names done, ∀ row, g.cell? name row = f.cell? name row

/-- The cells of a frame that solves the equations have their values. The induction is on what a name
needs. -/
theorem Registry.value_of_fills (hplan : Ordered r.computed plan) (hfills : g.Fills plan f)
    (hrow : row < f.rows) (hname : name ∈ Plan.names r.computed → name ∈ Plan.names plan)
    (hc : g.cell? name row = some c) : r.value hr f row name = some c.value := by
  induction name using hr.induction generalizing c with
  | h name ih =>
    by_cases hcomputed : name ∈ Plan.names r.computed
    · obtain ⟨m, hm, rfl⟩ := mem_names.1 (hname hcomputed)
      obtain ⟨n, d, x, hn, hd, hx, hcell⟩ := hfills.exists_cell? hm hrow
      obtain rfl : c = .float x := Option.some.inj (hc.symm.trans hcell)
      have hdep : ∀ a ∈ m.dependencies, ∀ e, g.cell? a row = some e →
          r.value hr f row a = some e.value := fun a ha e =>
        ih a ⟨m, hplan.subset hm, rfl, ha⟩ (hplan.closed hm ha)
      have hnum := hdep _ m.numerator_mem n hn
      have hden := hdep _ m.denominator_mem d hd
      rw [value_of_mem (hplan.subset hm), hnum, hden]
      show (m.evaluate [(m.numerator, n.value), (m.denominator, d.value)]).toOption >>= _ = _
      rw [hx]
      rfl
    · have hdone : name ∉ Plan.names plan := fun h => hcomputed (List.map_subset _ hplan.subset h)
      rw [value_of_not_mem hcomputed, Frame.cell?, ← hfills.kept name hdone]
      exact congrArg (Option.map Cell.value) hc

theorem Registry.settled_of_evaluate (hplan : Ordered r.computed plan) (h : f.evaluate plan = .ok g) :
    r.Settled hr f plan g := by
  have hfills := Frame.fills_of_evaluate hplan h
  refine ⟨hfills.rows, fun name hname row hrow => ?_, fun name hname row => ?_⟩
  · obtain ⟨m, hm, rfl⟩ := mem_names.1 hname
    obtain ⟨_, _, x, -, -, -, hx⟩ := hfills.exists_cell? hm hrow
    exact ⟨x, hx, value_of_fills hplan hfills hrow (fun _ => hname) hx⟩
  · rw [Frame.cell?, hfills.kept name hname]
    rfl

/-- However the computed metrics of a registry depend on each other, and whatever columns the frame
has, an evaluation that ends well fills every column of a computed metric with its values. -/
theorem Registry.cell?_of_evaluate (h : (r.evaluate f).outcome.1 = .ok g) :
    g.rows = f.rows ∧ ∃ hr, ∀ m ∈ r.computed, ∀ row < f.rows,
      ∃ x, g.cell? m.name row = some (.float x) ∧ r.value hr f row m.name = some (.float x) := by
  rw [Registry.outcome_evaluate] at h
  obtain ⟨plan, hplan, hrun⟩ := bind_eq_ok.1 h
  obtain ⟨hordered, hall⟩ := ordered_of_plan_eq_ok (mapError_eq_ok.1 hplan)
  have hr := wellFounded_needs (hordered.wellFounded (names_computed_nodup r) hall)
  have hsettled : r.Settled hr f plan g := settled_of_evaluate hordered hrun
  refine ⟨hsettled.rows, hr, fun m hm row hrow => ?_⟩
  exact hsettled.final m.name (hall (name_mem_names hm)) row hrow

end

/-- A rate that is accepted before the average it is made of. -/
def unsortedRegistry : Registry where
  metrics :=
    [.computed ⟨"share", "Share", "", "sales", .rate, "mean", "sum", by decide, by decide, by decide,
      by decide, by decide⟩,
     .computed ⟨"mean", "Mean", "", "sales", .average, "sum", "count", by decide, by decide, by decide,
      by decide, by decide⟩]
  nodup := by decide

/-- Zeros of both signs, what is neither a number nor finite, and a column in the place of the
average. -/
def zerosFrame : Frame :=
  let sums := (Frame.ofRows 4).put "sum" (.floats [7.0, 0.0, -3.0, 1.0 / 0.0]) rfl
  let counts := sums.put "count" (.floats [2.0, 0.0, -0.0, 0.0 / 0.0]) rfl
  counts.put "mean" (.ints [1, 2, 3, 4]) rfl

theorem Registry.cell?_of_evaluate_zerosFrame :
    ∃ g, (unsortedRegistry.evaluate zerosFrame).outcome.1 = .ok g ∧ g.rows = 4 ∧
      ∃ hr, ∀ m ∈ unsortedRegistry.computed, ∀ row < 4,
        ∃ x, g.cell? m.name row = some (.float x) ∧
          unsortedRegistry.value hr zerosFrame row m.name = some (.float x) := by
  have hok : (unsortedRegistry.evaluate zerosFrame).outcome.1.isOk = true := by
    rw [Registry.outcome_evaluate]
    decide +kernel
  cases hg : (unsortedRegistry.evaluate zerosFrame).outcome.1 with
  | error e => rw [hg] at hok; cases hok
  | ok g => exact ⟨g, rfl, Registry.cell?_of_evaluate hg⟩

end Yardstick
