import Mathlib.Data.List.Nodup
import Mathlib.Logic.Relation
import Mathlib.Order.WellFounded
import Yardstick.Plan

/-!
# Dependencies and their order

Computed metrics form a graph: each is linked to those of its two dependencies that are computed
metrics, too. A plan is `Ordered` if it was put together one metric at a time, each after all that it
is linked to. A graph with such a plan of all its metrics has no cycle (`Ordered.not_cyclic`).
-/

namespace Yardstick.Plan

def names (metrics : List ComputedMetric) : List String := metrics.map ComputedMetric.name

/-- The computed metric `a` has `b` among its two dependencies, be that computed or not. -/
def Needs (computed : List ComputedMetric) (a b : String) : Prop :=
  ∃ m ∈ computed, m.name = a ∧ b ∈ m.dependencies

/-- The computed metric `a` has the computed metric `b` among its two dependencies. -/
def DependsOn (computed : List ComputedMetric) (a b : String) : Prop :=
  ∃ m ∈ computed, m.name = a ∧ b ∈ m.dependencies ∧ b ∈ names computed

/-- One or more dependencies lead from `a` to `b`. -/
def Reaches (computed : List ComputedMetric) : String → String → Prop :=
  Relation.TransGen (DependsOn computed)

/-- Some computed metric reaches itself. -/
def Cyclic (computed : List ComputedMetric) : Prop := ∃ name, Reaches computed name name

/-- Every metric of a plan comes after those metrics of the plan that it depends on. -/
def DependenciesFirst (plan : List ComputedMetric) : Prop :=
  ∀ before m after, plan = before ++ m :: after →
    ∀ n ∈ plan, n.name ∈ m.dependencies → n ∈ before

/-- A plan of some of the computed metrics, built one metric at a time: none is taken twice, and each
comes when the computed metrics among its dependencies are there. -/
inductive Ordered (computed : List ComputedMetric) : List ComputedMetric → Prop
  | nil : Ordered computed []
  | snoc {plan : List ComputedMetric} {m : ComputedMetric} :
    Ordered computed plan → m ∈ computed → m.name ∉ names plan →
      (∀ d ∈ m.dependencies, d ∈ names computed → d ∈ names plan) → Ordered computed (plan ++ [m])

variable {computed plan : List ComputedMetric} {m : ComputedMetric} {a b name : String}

/-! ## Names -/

theorem mem_names : name ∈ names plan ↔ ∃ m ∈ plan, m.name = name := List.mem_map

theorem name_mem_names (h : m ∈ plan) : m.name ∈ names plan := List.mem_map_of_mem h

theorem names_append (p q : List ComputedMetric) : names (p ++ q) = names p ++ names q :=
  List.map_append

theorem any_name_eq : plan.any (·.name = name) = true ↔ name ∈ names plan := by
  simp [mem_names]

theorem find?_eq_none : computed.find? (·.name = name) = none ↔ name ∉ names computed := by
  simp [mem_names]

theorem names_computed_nodup (r : Registry) : (names r.computed).Nodup := by
  have hsub : (names r.computed).Sublist (r.metrics.map Metric.name) := by
    unfold names Registry.computed
    induction r.metrics with
    | nil => exact List.Sublist.slnil
    | cons m ms ih =>
      cases m with
      | base m => exact ih.cons _
      | computed m => exact ih.cons_cons _
  exact r.nodup.sublist hsub

/-- Different names tell the metrics apart. -/
theorem eq_of_name_eq (hc : (names computed).Nodup) {m n : ComputedMetric} (hm : m ∈ computed)
    (hn : n ∈ computed) (h : m.name = n.name) : m = n :=
  List.inj_on_of_nodup_map hc hm hn h

/-! ## Needs -/

theorem needs_of_find? (hm : computed.find? (·.name = name) = some m) (hd : a ∈ m.dependencies) :
    Needs computed name a :=
  ⟨m, List.mem_of_find?_eq_some hm, by simpa using List.find?_some hm, hd⟩

theorem Needs.left_mem (h : Needs computed a b) : a ∈ names computed := by
  obtain ⟨m, hm, rfl, -⟩ := h
  exact name_mem_names hm

/-- Without an endless chain of computed metrics there is none at all. -/
theorem wellFounded_needs (h : WellFounded fun b a => DependsOn computed a b) :
    WellFounded fun b a => Needs computed a b := by
  refine ⟨fun a => h.induction a fun a ih => Acc.intro a fun b hb => ?_⟩
  obtain ⟨m, hm, hname, hdep⟩ := hb
  by_cases hcomputed : b ∈ names computed
  · exact ih b ⟨m, hm, hname, hdep, hcomputed⟩
  · exact Acc.intro b fun c hc => absurd hc.left_mem hcomputed

/-! ## Cycles -/

theorem DependsOn.needs (h : DependsOn computed a b) : Needs computed a b := by
  obtain ⟨m, hm, hname, hdep, -⟩ := h
  exact ⟨m, hm, hname, hdep⟩

theorem DependsOn.left_mem (h : DependsOn computed a b) : a ∈ names computed := h.needs.left_mem

/-- Numbers that grow from every dependency to the metrics that depend on it rule out cycles. -/
theorem not_cyclic_of_rank (rank : String → Nat)
    (hrank : ∀ a b, DependsOn computed a b → rank b < rank a) : ¬ Cyclic computed := by
  have hreach : ∀ a b, Reaches computed a b → rank b < rank a := by
    intro a b h
    induction h with
    | single h => exact hrank _ _ h
    | tail _ h ih => exact (hrank _ _ h).trans ih
  rintro ⟨name, h⟩
  exact (hreach name name h).false

theorem not_cyclic_of_wellFounded (h : WellFounded fun b a => DependsOn computed a b) :
    ¬ Cyclic computed := by
  rintro ⟨name, hn⟩
  have hswap : Relation.TransGen (fun b a => DependsOn computed a b) name name :=
    Relation.transGen_swap.1 hn
  exact h.transGen.irrefl.irrefl name hswap

/-! ## Ordered plans -/

namespace Ordered

theorem subset (h : Ordered computed plan) : plan ⊆ computed := by
  induction h with
  | nil => exact List.nil_subset _
  | snoc _ hm _ _ ih => exact List.append_subset.2 ⟨ih, by simpa using hm⟩

theorem nodup (h : Ordered computed plan) : (names plan).Nodup := by
  induction h with
  | nil => exact List.nodup_nil
  | snoc _ _ hnew _ ih =>
    rw [names_append]
    exact List.Nodup.append ih (List.nodup_singleton _) (by simpa [names] using hnew)

/-- A plan holds what its metrics depend on. -/
theorem closed (h : Ordered computed plan) (hm : m ∈ plan) (hd : a ∈ m.dependencies)
    (ha : a ∈ names computed) : a ∈ names plan := by
  induction h with
  | nil => cases hm
  | snoc _ _ _ hdeps ih =>
    rw [names_append, List.mem_append]
    rcases List.mem_append.1 hm with hm | hm
    · exact .inl (ih hm)
    · obtain rfl := List.mem_singleton.1 hm
      exact .inl (hdeps _ hd ha)

theorem dependenciesFirst (h : Ordered computed plan) : DependenciesFirst plan := by
  induction h with
  | nil => intro before m after h; simp at h
  | @snoc plan m hplan hm hnew hdeps ih =>
    have hall : Ordered computed (plan ++ [m]) := .snoc hplan hm hnew hdeps
    intro before x after hsplit n hn hdep
    obtain rfl | ⟨after, last, rfl⟩ := List.eq_nil_or_concat' after
    · -- the metric taken last: what it depends on was in the plan before
      obtain ⟨rfl, rfl⟩ := List.append_singleton_inj.1 hsplit
      obtain ⟨n', hn', hname⟩ := mem_names.1 (hdeps _ hdep (name_mem_names (hall.subset hn)))
      rw [← eq_of_name_eq hall.nodup (List.mem_append_left _ hn') hn hname]
      exact hn'
    · -- an earlier metric: it cannot depend on the one taken last
      rw [← List.cons_append, ← List.append_assoc] at hsplit
      have hplan' := (List.append_singleton_inj.1 hsplit).1
      have hx : x ∈ plan := hplan' ▸ List.mem_append_right _ List.mem_cons_self
      rcases List.mem_append.1 hn with hn | hn
      · exact ih before x after hplan' n hn hdep
      · obtain rfl := List.mem_singleton.1 hn
        exact absurd (hplan.closed hx hdep (name_mem_names hm)) hnew

/-- No endless chain of dependencies starts in an ordered plan. -/
theorem acc (hc : (names computed).Nodup) (h : Ordered computed plan) (ha : a ∈ names plan) :
    Acc (fun b a => DependsOn computed a b) a := by
  induction h generalizing a with
  | nil => cases ha
  | snoc _ hm _ hdeps ih =>
    rw [names_append, List.mem_append] at ha
    rcases ha with ha | ha
    · exact ih ha
    · obtain rfl := List.mem_singleton.1 ha
      refine Acc.intro _ fun b hb => ?_
      obtain ⟨m', hm', hname, hdep, hb⟩ := hb
      obtain rfl := eq_of_name_eq hc hm' hm hname
      exact ih (hdeps b hdep hb)

/-- A plan of all metrics leaves no endless chain of dependencies, -/
theorem wellFounded (hc : (names computed).Nodup) (h : Ordered computed plan)
    (hall : names computed ⊆ names plan) : WellFounded fun b a => DependsOn computed a b := by
  refine ⟨fun a => ?_⟩
  by_cases ha : a ∈ names computed
  · exact h.acc hc (hall ha)
  · exact Acc.intro a fun b hb => absurd hb.left_mem ha

/-- and so no cycle. -/
theorem not_cyclic (hc : (names computed).Nodup) (h : Ordered computed plan)
    (hall : names computed ⊆ names plan) : ¬ Cyclic computed :=
  not_cyclic_of_wellFounded (h.wellFounded hc hall)

/-- A plan of all metrics holds each of them once. -/
theorem perm (hc : (names computed).Nodup) (h : Ordered computed plan)
    (hall : names computed ⊆ names plan) : plan.Perm computed := by
  refine (List.perm_ext_iff_of_nodup h.nodup.of_map hc.of_map).2 fun m => ⟨fun hm => h.subset hm, fun hm => ?_⟩
  obtain ⟨n, hn, hname⟩ := mem_names.1 (hall (name_mem_names hm))
  rwa [← eq_of_name_eq hc (h.subset hn) hm hname]

end Ordered

end Yardstick.Plan
