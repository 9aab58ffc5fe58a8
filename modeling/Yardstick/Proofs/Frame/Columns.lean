import Yardstick.Frame.Evaluation
import Yardstick.Proofs.Outcome
import Yardstick.Proofs.Plan.Order

/-!
# The columns of a result

A result solves the equations of its metrics: each computed column is what the metric makes of the
columns of the result itself, although it was made of those that were there before it
(`Frame.fills_of_evaluate`). Without a cycle there is only one solution (`Frame.Fills.unique`), so
the order in which columns are computed cannot be seen in them.
-/

namespace Yardstick

open Plan

/-! ## Columns of numbers -/

/-- The column of a name as doubles, if there is one and all of its cells are numbers. -/
def Frame.floats? (f : Frame) (name : String) : Option (List Float) :=
  (f.columns.get? name).bind fun c => c.toFloats.toOption

/-- The column that a metric makes of those of its dependencies. -/
def Frame.quotient? (f : Frame) (m : ComputedMetric) : Option Column := do
  let ns ← f.floats? m.numerator
  let ds ← f.floats? m.denominator
  return .floats ((List.zipWith safeRatio ns ds).map (· * m.formula.scale))

/-- Masking the zeros out and in again is the same as looking at each divisor. -/
theorem safeRatios_eq_zipWith (ns ds : List Float) :
    safeRatios ns ds = List.zipWith safeRatio ns ds := by
  unfold safeRatios fillWhere
  induction ns generalizing ds with
  | nil => rfl
  | cons n ns ih =>
    cases ds with
    | nil => rfl
    | cons d ds =>
      simp only [List.map_cons, List.zipWith_cons_cons, ih, safeRatio]
      cases d == 0.0 <;> rfl

theorem floatsOf_eq_ok {cells : List Cell} {xs : List Float} :
    floatsOf cells = .ok xs ↔ cells.map Cell.toFloat = xs.map .ok := by
  induction cells generalizing xs with
  | nil => cases xs <;> simp [floatsOf]
  | cons c cells ih =>
    rw [floatsOf]
    cases hc : c.toFloat with
    | error e => cases xs <;> simp [hc]
    | ok x =>
      rw [map_eq_ok]
      constructor
      · rintro ⟨ys, hys, rfl⟩
        rw [List.map_cons, hc, ih.1 hys, List.map_cons]
      · intro h
        cases xs with
        | nil => cases h
        | cons y ys =>
          simp only [List.map_cons, List.cons.injEq, hc, Except.ok.injEq] at h
          exact ⟨ys, ih.2 h.2, by rw [h.1]⟩

theorem toFloats_floats (xs : List Float) : (Column.floats xs).toFloats = .ok xs := by
  unfold Column.toFloats
  rw [floatsOf_eq_ok]
  simp [Column.cells, Cell.toFloat]

namespace Frame

variable {f g h : Frame} {m : ComputedMetric} {name : String} {c : Column} {xs ns ds : List Float}

theorem size_of_get? {c : Column} (h : f.columns.get? name = some c) : c.size = f.rows := by
  obtain ⟨before, after, hentries, -⟩ := List.lookup_eq_some_iff.1 h
  exact f.aligned (name, c) (hentries ▸ List.mem_append_right before List.mem_cons_self)

theorem mem_names_iff : name ∈ f.names ↔ f.columns.contains name = true := by
  unfold names Table.keys Table.contains Table.get?
  simp only [List.lookup_isSome_iff, List.mem_map, beq_iff_eq, @eq_comm _ name]

theorem mem_names_congr (hg : g.columns.get? name = f.columns.get? name) :
    name ∈ g.names ↔ name ∈ f.names := by
  rw [mem_names_iff, mem_names_iff, Table.contains, Table.contains, hg]

theorem missing_eq_filter : f.missing m = m.dependencies.filter (· ∉ f.names) := by
  refine List.filter_congr fun d _ => ?_
  simp [mem_names_iff]

theorem floats?_eq_some :
    f.floats? name = some xs ↔ ∃ c, f.columns.get? name = some c ∧ c.toFloats = .ok xs := by
  have hopt (x : Except NumberFault (List Float)) : x.toOption = some xs ↔ x = .ok xs := by
    cases x <;> simp [Except.toOption]
  simp only [floats?, Option.bind_eq_some_iff, hopt]

theorem mem_names_of_floats? (hxs : f.floats? name = some xs) : name ∈ f.names := by
  obtain ⟨c, hc, -⟩ := floats?_eq_some.1 hxs
  rw [mem_names_iff, Table.contains, hc]
  rfl

theorem floats?_congr (hg : g.columns.get? name = f.columns.get? name) :
    g.floats? name = f.floats? name := by
  unfold floats?
  rw [hg]

/-- What a metric makes of a frame depends on the columns of its dependencies only. -/
theorem quotient?_congr
    (hg : ∀ d ∈ m.dependencies, g.columns.get? d = f.columns.get? d) :
    g.quotient? m = f.quotient? m := by
  unfold quotient?
  rw [floats?_congr (hg _ m.numerator_mem), floats?_congr (hg _ m.denominator_mem)]

/-! ## Extensions -/

/-- An extension puts what the metric makes of the frame. -/
theorem extend_eq_ok (hextend : f.extend m = .ok g) :
    g.rows = f.rows ∧ ∃ c, f.quotient? m = some c ∧ g.columns = f.columns.put m.name c := by
  unfold extend at hextend
  split at hextend
  · next n d hn hd =>
    split at hextend
    · cases hextend
    · cases hextend
    · next ns ds hns hds =>
      simp only [safeRatios_eq_zipWith] at hextend
      split at hextend
      · cases hextend
        refine ⟨rfl, _, ?_, rfl⟩
        unfold quotient?
        rw [floats?_eq_some.2 ⟨n, hn, hns⟩, floats?_eq_some.2 ⟨d, hd, hds⟩]
        rfl
      · cases hextend
  · cases hextend

theorem exists_extend (hn : f.floats? m.numerator = some ns) (hd : f.floats? m.denominator = some ds) :
    ∃ g, f.extend m = .ok g := by
  obtain ⟨n, hn, hns⟩ := floats?_eq_some.1 hn
  obtain ⟨d, hd, hds⟩ := floats?_eq_some.1 hd
  have hlength : ((safeRatios ns ds).map (· * m.formula.scale)).length = f.rows := by
    rw [List.length_map, length_safeRatios, Column.length_toFloats hds, size_of_get? hd]
    rw [Column.length_toFloats hns, Column.length_toFloats hds, size_of_get? hn, size_of_get? hd]
  unfold extend
  simp only [hn, hd, hns, hds, Column.size, hlength, dif_pos]
  exact ⟨_, rfl⟩

theorem extend_of_missing (hm : f.missing m ≠ []) :
    f.extend m = .error (.error (.missingColumns m.name (f.missing m))) := by
  unfold extend
  split
  · next n d hn hd =>
    refine absurd ?_ hm
    simp [missing, ComputedMetric.dependencies, Table.contains, hn, hd]
  · rfl

/-- The metric planned last is evaluated over what the others made. -/
theorem evaluate_snoc (f : Frame) (plan : List ComputedMetric) (m : ComputedMetric) :
    f.evaluate (plan ++ [m]) = f.evaluate plan >>= fun g => g.extend m := by
  unfold evaluate
  rw [List.foldlM_append]
  refine congrArg (plan.foldlM extend f >>= ·) (funext fun g => ?_)
  rw [List.foldlM_cons]
  exact bind_pure (g.extend m)

/-! ## Solutions -/

/-- A frame that solves the equations of some metrics over `f`: the columns of their names are what
each makes of the frame itself, and all others are those of `f`. -/
structure Fills (g : Frame) (metrics : List ComputedMetric) (f : Frame) : Prop where
  rows : g.rows = f.rows
  filled : ∀ m ∈ metrics, ∃ c, g.quotient? m = some c ∧ g.columns.get? m.name = some c
  kept : ∀ name ∉ Plan.names metrics, g.columns.get? name = f.columns.get? name

namespace Fills

variable {computed computed' plan : List ComputedMetric}

theorem nil : f.Fills [] f := ⟨rfl, fun _ h => absurd h List.not_mem_nil, fun _ _ => rfl⟩

/-- The column that is put last is read by none of the metrics before it, nor by its own. -/
theorem snoc (hfills : g.Fills plan f) (hplan : Ordered computed plan) (hm : m ∈ computed)
    (hnew : m.name ∉ Plan.names plan)
    (hdeps : ∀ d ∈ m.dependencies, d ∈ Plan.names computed → d ∈ Plan.names plan)
    (hextend : g.extend m = .ok h) : h.Fills (plan ++ [m]) f := by
  obtain ⟨hrows, c, hc, hput⟩ := extend_eq_ok hextend
  have hother : ∀ name, name ≠ m.name → h.columns.get? name = g.columns.get? name := by
    intro name hname
    rw [hput, Table.get?_put, if_neg hname]
  have hread : ∀ n ∈ plan ++ [m], m.name ∉ n.dependencies := by
    intro n hn hd
    rcases List.mem_append.1 hn with hn | hn
    · exact hnew (hplan.closed hn hd (name_mem_names hm))
    · obtain rfl := List.mem_singleton.1 hn
      exact hnew (hdeps _ hd (name_mem_names hm))
  have hquotient : ∀ n ∈ plan ++ [m], h.quotient? n = g.quotient? n := fun n hn =>
    quotient?_congr fun d hd => hother d fun heq => hread n hn (heq ▸ hd)
  refine ⟨hrows.trans hfills.rows, fun n hn => ?_, fun name hname => ?_⟩
  · rw [hquotient n hn]
    rcases List.mem_append.1 hn with hn | hn
    · rw [hother n.name fun heq => hnew (heq ▸ name_mem_names hn)]
      exact hfills.filled n hn
    · obtain rfl := List.mem_singleton.1 hn
      exact ⟨c, hc, by rw [hput, Table.get?_put, if_pos rfl]⟩
  · rw [names_append, List.mem_append, not_or] at hname
    rw [hother name (by simpa [Plan.names] using hname.2)]
    exact hfills.kept name hname.1

/-- A column of numbers has been computed for every metric. -/
theorem exists_floats? (hfills : g.Fills plan f) (hname : name ∈ Plan.names plan) :
    ∃ xs, g.floats? name = some xs := by
  obtain ⟨m, hm, rfl⟩ := mem_names.1 hname
  obtain ⟨c, hc, hget⟩ := hfills.filled m hm
  unfold quotient? at hc
  obtain ⟨ns, -, hc⟩ := Option.bind_eq_some_iff.1 hc
  obtain ⟨ds, -, hc⟩ := Option.bind_eq_some_iff.1 hc
  obtain rfl := Option.some.inj hc
  exact ⟨_, floats?_eq_some.2 ⟨_, hget, toFloats_floats _⟩⟩

theorem congr (hsame : ∀ m, m ∈ computed ↔ m ∈ computed') (hfills : g.Fills computed f) :
    g.Fills computed' f := by
  have hnames (name : String) : name ∈ Plan.names computed ↔ name ∈ Plan.names computed' := by
    simp only [mem_names, hsame]
  exact ⟨hfills.rows, fun m hm => hfills.filled m ((hsame m).2 hm),
    fun name hname => hfills.kept name fun h => hname ((hnames name).1 h)⟩

/-- There is one solution only. The induction is on what a column needs: both frames have the same
columns there, and so does what the metric makes of them. -/
theorem unique (hwf : WellFounded fun b a => Needs computed a b) (hg : g.Fills computed f)
    (hh : h.Fills computed f) (name : String) : g.columns.get? name = h.columns.get? name := by
  induction name using hwf.induction with
  | h name ih =>
    by_cases hname : name ∈ Plan.names computed
    · obtain ⟨m, hm, rfl⟩ := mem_names.1 hname
      obtain ⟨c, hc, hgm⟩ := hg.filled m hm
      obtain ⟨c', hc', hhm⟩ := hh.filled m hm
      have hquotient : g.quotient? m = h.quotient? m :=
        quotient?_congr fun d hd => ih d ⟨m, hm, rfl, hd⟩
      rw [hgm, hhm, ← hc, ← hc', hquotient]
    · rw [hg.kept name hname, hh.kept name hname]

end Fills

/-- The induction is on how the plan was put together. -/
theorem fills_of_evaluate {computed plan : List ComputedMetric} (hplan : Ordered computed plan)
    (hrun : f.evaluate plan = .ok g) : g.Fills plan f := by
  induction hplan generalizing g with
  | nil => cases hrun; exact .nil
  | snoc hplan hm hnew hdeps ih =>
    rw [evaluate_snoc] at hrun
    obtain ⟨g₁, hg₁, hrun⟩ := bind_eq_ok.1 hrun
    exact (ih hg₁).snoc hplan hm hnew hdeps hrun

end Frame

end Yardstick
