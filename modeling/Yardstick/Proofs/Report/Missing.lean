import Yardstick.Proofs.Frame.Columns
import Yardstick.Proofs.Plan.Visit
import Yardstick.Proofs.Report.Registry

/-!
# What a frame lacks

A dependency is provided by a column of the frame or by a computed metric of the registry; that a base
metric has its name provides nothing. As each metric comes after the computed ones it needs, its check
finds missing exactly what nobody provides (`missing_eq_lacking`), although it looks at a frame that
grows. So a plan runs to its end, or stops at its first metric that lacks something.
-/

namespace Yardstick

open Plan

/-- Evaluating or building failed for an error of a family. -/
def FailsFor {α : Type} (result : Except Fault α) (family : Error.Family) : Prop :=
  ∃ e, result = .error (.error e) ∧ e.family = family

/-- The dependencies of a metric that neither the frame nor a computed metric provides, the numerator
first. -/
def Registry.lacking (r : Registry) (f : Frame) (m : ComputedMetric) : List String :=
  m.dependencies.filter fun d => d ∉ f.names ∧ d ∉ Plan.names r.computed

/-- All columns that a computed metric names as a dependency hold numbers. -/
def Registry.ReadsNumbers (r : Registry) (f : Frame) : Prop :=
  ∀ m ∈ r.computed, ∀ d ∈ m.dependencies, ∀ c, f.columns.get? d = some c → ∃ xs, c.toFloats = .ok xs

namespace Registry

variable {r : Registry} {f g : Frame} {m : ComputedMetric} {plan : List ComputedMetric}

theorem readsNumbers_iff : r.ReadsNumbers f ↔
    ∀ m ∈ r.computed, ∀ d ∈ m.dependencies, (f.columns.get? d).all (·.toFloats.isOk) = true := by
  have hok (c : Column) : (∃ xs, c.toFloats = .ok xs) ↔ c.toFloats.isOk = true := by
    cases c.toFloats <;> simp [Except.isOk, Except.toBool]
  simp only [ReadsNumbers, hok, Option.all_eq_true]

instance : Decidable (r.ReadsNumbers f) := decidable_of_iff _ readsNumbers_iff.symm

theorem lacking_ne_nil_iff :
    r.lacking f m ≠ [] ↔ ∃ d ∈ m.dependencies, d ∉ f.names ∧ d ∉ Plan.names r.computed := by
  unfold lacking
  rw [Ne, List.filter_eq_nil_iff]
  simp only [decide_eq_true_eq, not_forall, not_not, exists_prop]

/-! ## One step -/

section

variable (hplan : Ordered r.computed plan) (hfills : g.Fills plan f)
  (hdeps : ∀ d ∈ m.dependencies, d ∈ Plan.names r.computed → d ∈ Plan.names plan)

include hplan hfills hdeps

/-- What the frame lacks that a plan has made so far is what nobody provides. -/
theorem missing_eq_lacking : g.missing m = r.lacking f m := by
  rw [Frame.missing_eq_filter, lacking]
  refine List.filter_congr fun d hd => decide_eq_decide.2 ?_
  by_cases hcomputed : d ∈ Plan.names r.computed
  · obtain ⟨xs, hxs⟩ := hfills.exists_floats? (hdeps d hd hcomputed)
    exact iff_of_false (fun h => h (Frame.mem_names_of_floats? hxs)) fun h => h.2 hcomputed
  · have hkept := hfills.kept d fun h => hcomputed (List.map_subset _ hplan.subset h)
    rw [Frame.mem_names_congr hkept, and_iff_left hcomputed]

/-- A metric that lacks nothing is computed. -/
theorem exists_extend_of_provided (hnumbers : r.ReadsNumbers f) (hm : m ∈ r.computed)
    (hprovided : r.lacking f m = []) : ∃ h, g.extend m = .ok h := by
  have hfloats : ∀ d ∈ m.dependencies, ∃ xs, g.floats? d = some xs := by
    intro d hd
    by_cases hcomputed : d ∈ Plan.names r.computed
    · exact hfills.exists_floats? (hdeps d hd hcomputed)
    · have hthere : d ∈ f.names := by
        by_contra hnone
        exact lacking_ne_nil_iff.2 ⟨d, hd, hnone, hcomputed⟩ hprovided
      obtain ⟨c, hc⟩ := Option.isSome_iff_exists.1 (Frame.mem_names_iff.1 hthere)
      obtain ⟨xs, hxs⟩ := hnumbers m hm d hd c hc
      have hkept := hfills.kept d fun h => hcomputed (List.map_subset _ hplan.subset h)
      exact ⟨xs, Frame.floats?_eq_some.2 ⟨c, hkept.trans hc, hxs⟩⟩
  obtain ⟨ns, hns⟩ := hfloats _ m.numerator_mem
  obtain ⟨ds, hds⟩ := hfloats _ m.denominator_mem
  exact Frame.exists_extend hns hds

end

/-! ## A plan -/

/-- A plan whose metrics lack nothing runs to its end. -/
theorem exists_evaluate_of_provided (hplan : Ordered r.computed plan) (hnumbers : r.ReadsNumbers f)
    (hprovided : ∀ m ∈ plan, r.lacking f m = []) : ∃ g, f.evaluate plan = .ok g := by
  induction hplan with
  | nil => exact ⟨f, rfl⟩
  | @snoc plan m hplan hm hnew hdeps ih =>
    obtain ⟨g, hg⟩ := ih fun n hn => hprovided n (List.mem_append_left _ hn)
    have hlast := hprovided m (List.mem_append_right _ (List.mem_singleton_self m))
    have hfills := Frame.fills_of_evaluate hplan hg
    obtain ⟨h, hh⟩ := exists_extend_of_provided hplan hfills hdeps hnumbers hm hlast
    rw [Frame.evaluate_snoc, hg]
    exact ⟨h, hh⟩

/-- A plan stops at the first of its metrics that lacks something. -/
theorem evaluate_of_lacking (hplan : Ordered r.computed plan) (hnumbers : r.ReadsNumbers f)
    (hfirst : plan.find? (r.lacking f · ≠ []) = some m) :
    f.evaluate plan = .error (.error (.missingColumns m.name (r.lacking f m))) := by
  induction hplan with
  | nil => cases hfirst
  | @snoc plan last hplan hm hnew hdeps ih =>
    rw [Frame.evaluate_snoc]
    rw [List.find?_append] at hfirst
    cases hbefore : plan.find? (r.lacking f · ≠ []) with
    | some n =>
      rw [hbefore] at hfirst
      obtain rfl : n = m := Option.some.inj hfirst
      rw [ih hbefore]
      rfl
    | none =>
      rw [hbefore, Option.none_or] at hfirst
      obtain rfl : m = last := by simpa using List.mem_of_find?_eq_some hfirst
      have hlacks : r.lacking f m ≠ [] := by simpa using List.find?_some hfirst
      obtain ⟨g, hg⟩ := exists_evaluate_of_provided hplan hnumbers fun n hn => by
        simpa using List.find?_eq_none.1 hbefore n hn
      have hmissing := missing_eq_lacking hplan (Frame.fills_of_evaluate hplan hg) hdeps
      rw [hg, ← hmissing]
      exact Frame.extend_of_missing (hmissing ▸ hlacks)

/-! ## A registry -/

theorem name_not_mem_computed {b : BaseMetric} (hb : b ∈ r.base) : b.name ∉ Plan.names r.computed := by
  intro h
  obtain ⟨c, hc, hname⟩ := mem_names.1 h
  obtain ⟨x, hx, hbase⟩ := List.mem_filterMap.1 hb
  obtain ⟨y, hy, hcomputed⟩ := List.mem_filterMap.1 hc
  cases x with
  | computed _ => cases hbase
  | base x =>
    cases y with
    | base _ => cases hcomputed
    | computed y =>
      obtain rfl := Option.some.inj hbase
      obtain rfl := Option.some.inj hcomputed
      cases List.inj_on_of_nodup_map r.nodup hx hy hname.symm

theorem outcome_of_provided (hacyclic : ¬ Cyclic r.computed) (hnumbers : r.ReadsNumbers f)
    (hprovided : ∀ m ∈ r.computed, r.lacking f m = []) :
    ∃ g, (r.evaluate f).outcome.1 = .ok g ∧ g.Fills r.computed f := by
  obtain ⟨plan, hplan, hordered, hperm⟩ := exists_plan_of_not_cyclic hacyclic
  obtain ⟨g, hg⟩ := exists_evaluate_of_provided hordered hnumbers fun m hm =>
    hprovided m (hordered.subset hm)
  refine ⟨g, ?_, (Frame.fills_of_evaluate hordered hg).congr fun _ => hperm.mem_iff⟩
  rw [outcome_evaluate, hplan]
  exact hg

theorem outcome_of_lacking (hacyclic : ¬ Cyclic r.computed) (hnumbers : r.ReadsNumbers f)
    (hm : m ∈ r.computed) (hlacks : r.lacking f m ≠ []) :
    ∃ plan first, r.plan = .ok plan ∧ plan.find? (r.lacking f · ≠ []) = some first ∧
      (r.evaluate f).outcome.1 =
        .error (.error (.missingColumns first.name (r.lacking f first))) := by
  obtain ⟨plan, hplan, hordered, hperm⟩ := exists_plan_of_not_cyclic hacyclic
  obtain ⟨first, hfirst⟩ : ∃ first, plan.find? (r.lacking f · ≠ []) = some first := by
    rw [← Option.isSome_iff_exists, List.find?_isSome]
    exact ⟨m, hperm.mem_iff.2 hm, decide_eq_true hlacks⟩
  refine ⟨plan, first, hplan, hfirst, ?_⟩
  rw [outcome_evaluate, hplan]
  exact evaluate_of_lacking hordered hnumbers hfirst

/-- Where there is no cycle and the columns that are read hold numbers, evaluating fails for a
dependency that is not resolved exactly if some metric has one that is neither a column nor a computed
metric. The message then tells the first such metric of the plan and all that this one lacks. A base
metric in the registry resolves nothing. -/
theorem unresolved_iff_lacking (hacyclic : ¬ Cyclic r.computed) (hnumbers : r.ReadsNumbers f) :
    (FailsFor (r.evaluate f).outcome.1 .unresolved ↔
      ∃ m ∈ r.computed, ∃ d ∈ m.dependencies, d ∉ f.names ∧ d ∉ Plan.names r.computed) ∧
    (FailsFor (r.evaluate f).outcome.1 .unresolved →
      ∃ plan m e, r.plan = .ok plan ∧ plan.find? (r.lacking f · ≠ []) = some m ∧
        (r.evaluate f).outcome.1 = .error (.error e) ∧
        e.message = "Computed metric " ++ m.name ++ " depends on missing metrics: " ++
          ", ".intercalate (r.lacking f m)) ∧
    (∀ b ∈ r.base, b.name ∉ f.names → ∀ m ∈ r.computed, b.name ∈ m.dependencies →
      FailsFor (r.evaluate f).outcome.1 .unresolved) := by
  have hfails : ∀ m ∈ r.computed, r.lacking f m ≠ [] →
      FailsFor (r.evaluate f).outcome.1 .unresolved := by
    intro m hm hlacks
    obtain ⟨plan, first, -, -, hrun⟩ := outcome_of_lacking hacyclic hnumbers hm hlacks
    exact ⟨_, hrun, rfl⟩
  have hlacks : FailsFor (r.evaluate f).outcome.1 .unresolved →
      ∃ m ∈ r.computed, r.lacking f m ≠ [] := by
    rintro ⟨e, hrun, -⟩
    by_contra hnone
    push Not at hnone
    obtain ⟨g, hg, -⟩ := outcome_of_provided hacyclic hnumbers hnone
    cases hrun.symm.trans hg
  refine ⟨⟨fun h => ?_, ?_⟩, fun h => ?_, ?_⟩
  · obtain ⟨m, hm, hne⟩ := hlacks h
    exact ⟨m, hm, lacking_ne_nil_iff.1 hne⟩
  · rintro ⟨m, hm, hd⟩
    exact hfails m hm (lacking_ne_nil_iff.2 hd)
  · obtain ⟨m, hm, hne⟩ := hlacks h
    obtain ⟨plan, first, hplan, hfirst, hrun⟩ := outcome_of_lacking hacyclic hnumbers hm hne
    exact ⟨plan, first, _, hplan, hfirst, hrun, rfl⟩
  · intro b hb hcolumn m hm hd
    exact hfails m hm (lacking_ne_nil_iff.2 ⟨b.name, hd, hcolumn, name_not_mem_computed hb⟩)

/-- A portion of baskets is accepted before the basket and the base metric that the basket divides
by. -/
def basketRegistry : Registry where
  metrics :=
    [.computed ⟨"portion", "Portion", "", "orders", .rate, "basket", "total", by decide, by decide,
      by decide, by decide, by decide⟩,
     .computed ⟨"basket", "Basket", "", "orders", .average, "amount", "visits", by decide, by decide,
      by decide, by decide, by decide⟩,
     .base ⟨"visits", "Visits", "", "orders", "count(*)", some .count, by decide, by decide⟩]
  nodup := by decide

/-- Amounts alone, beside texts that no metric reads. -/
def amountsFrame : Frame :=
  let amounts := (Frame.ofRows 2).put "amount" (.floats [3.0, 4.5]) rfl
  amounts.put "note" (.mixed [.text "a", .missing]) rfl

/-- Both metrics lack something; the basket is the first to be planned. -/
theorem unresolved_iff_lacking_amountsFrame :
    ¬ Cyclic basketRegistry.computed ∧ basketRegistry.ReadsNumbers amountsFrame ∧
    ∃ e, (basketRegistry.evaluate amountsFrame).outcome.1 = .error (.error e) ∧
      e.message = "Computed metric basket depends on missing metrics: visits" := by
  obtain ⟨plan, hplan, hnames⟩ : ∃ plan, basketRegistry.plan = .ok plan ∧
      (plan.find? (basketRegistry.lacking amountsFrame · ≠ [])).map
        (fun m => (m.name, basketRegistry.lacking amountsFrame m)) = some ("basket", ["visits"]) := by
    have hrun : (basketRegistry.plan.map fun plan =>
        (plan.find? (basketRegistry.lacking amountsFrame · ≠ [])).map
          fun m => (m.name, basketRegistry.lacking amountsFrame m)) =
        .ok (some ("basket", ["visits"])) := by decide +kernel
    exact map_eq_ok.1 hrun
  have hacyclic := not_cyclic_of_plan_eq_ok hplan
  have hnumbers : basketRegistry.ReadsNumbers amountsFrame := by decide +kernel
  refine ⟨hacyclic, hnumbers, ?_⟩
  have hspec := unresolved_iff_lacking hacyclic hnumbers
  have hfails := hspec.1.2 ⟨_, List.mem_cons_self, "total", by decide, by decide, by decide⟩
  obtain ⟨plan', m, e, hplan', hfirst, hrun, hmessage⟩ := hspec.2.1 hfails
  obtain rfl : plan' = plan := Except.ok.inj (hplan'.symm.trans hplan)
  rw [hfirst, Option.map_some, Option.some.injEq, Prod.mk.injEq] at hnames
  rw [hnames.1, hnames.2] at hmessage
  exact ⟨e, hrun, hmessage⟩

end Registry

end Yardstick
