import Mathlib.Data.List.Chain
import Yardstick.Proofs.Plan.Order

/-!
# What visits make of a plan

A visit keeps the plan `Ordered`, only adds to it, and adds nothing that is being visited; or else it
ends at a metric that reaches itself (`visit_ends`). All visits together therefore plan every computed
metric once, after its dependencies, unless there is a cycle (`plan_sorts_iff_not_cyclic`).
-/

namespace Yardstick.Plan

variable {computed plan later : List ComputedMetric} {path : List String} {name : String}

/-- A path of visits, the last first: each name is a dependency of the one visited before it. -/
def Trail (computed : List ComputedMetric) (path : List String) : Prop :=
  path.IsChain fun b a => DependsOn computed a b

/-- What a visit of `name` makes of a plan: it is still ordered, and longer at its end only. It holds
`name`, and nothing new that is being visited. -/
structure Visited (computed : List ComputedMetric) (path : List String) (plan : List ComputedMetric)
    (name : String) (later : List ComputedMetric) : Prop where
  ordered : Ordered computed later
  grows : plan <+: later
  holds : name ∈ names computed → name ∈ names later
  avoids : ∀ p ∈ path, p ∈ names later → p ∈ names plan

/-- How a visit may end: with a later plan, or at a cycle. -/
def Ends (computed : List ComputedMetric) (path : List String) (plan : List ComputedMetric)
    (name : String) : Except Error (List ComputedMetric) → Prop
  | .ok later => Visited computed path plan name later
  | .error e => Cyclic computed ∧ ∃ chain, e = .cycle chain

theorem names_subset_of_isPrefix (h : plan <+: later) : names plan ⊆ names later :=
  List.map_subset _ h.subset

/-- A name that a trail comes back to reaches itself. -/
theorem Trail.cyclic (htrail : Trail computed (name :: path)) (h : name ∈ path) :
    Cyclic computed := by
  have hreach : (name :: path).IsChain (Relation.TransGen fun b a => DependsOn computed a b) :=
    htrail.imp fun _ _ => .single
  have hback := List.rel_of_pairwise_cons hreach.pairwise h
  exact ⟨name, Relation.transGen_swap.1 hback⟩

theorem Visited.refl (hplan : Ordered computed plan) (h : name ∈ names computed → name ∈ names plan) :
    Visited computed path plan name plan :=
  ⟨hplan, List.prefix_rfl, h, fun _ _ hp => hp⟩

/-- A visit from `name` to its two dependencies, after which `name` is taken. -/
theorem Visited.snoc {m : ComputedMetric} {plan₁ plan₂ : List ComputedMetric}
    (h₁ : Visited computed (m.name :: path) plan m.numerator plan₁)
    (h₂ : Visited computed (m.name :: path) plan₁ m.denominator plan₂)
    (hm : m ∈ computed) (hnew : m.name ∉ names plan) (hpath : m.name ∉ path) :
    Visited computed path plan m.name (plan₂ ++ [m]) := by
  have havoid : ∀ p ∈ m.name :: path, p ∈ names plan₂ → p ∈ names plan := fun p hp h =>
    h₁.avoids p hp (h₂.avoids p hp h)
  refine ⟨h₂.ordered.snoc hm ?_ ?_, ?_, ?_, ?_⟩
  · exact fun h => hnew (havoid _ List.mem_cons_self h)
  · intro d hd hcomputed
    rcases List.mem_pair.1 hd with rfl | rfl
    · exact names_subset_of_isPrefix h₂.grows (h₁.holds hcomputed)
    · exact h₂.holds hcomputed
  · exact (h₁.grows.trans h₂.grows).trans (List.prefix_append _ _)
  · intro _
    exact name_mem_names (List.mem_append_right _ (List.mem_singleton_self m))
  · intro p hp h
    rw [names_append, List.mem_append] at h
    rcases h with h | h
    · exact havoid p (List.mem_cons_of_mem _ hp) h
    · obtain rfl := List.mem_singleton.1 h
      exact absurd hp hpath

/-- The induction follows the visits. That the path is a trail makes a name met again a cycle, and
that nothing on the path is added lets a metric be taken after its dependencies. -/
theorem visit_ends (hplan : Ordered computed plan)
    (htrail : name ∈ names computed → Trail computed (name :: path)) :
    Ends computed path plan name (visit computed path plan name) := by
  fun_induction visit computed path plan name with
  | case1 path plan name hfind => exact .refl hplan fun h => absurd h (find?_eq_none.1 hfind)
  | case2 path plan name m hfind hplanned => exact .refl hplan fun _ => any_name_eq.1 hplanned
  | case3 path plan name m hfind hnew hpath =>
    have hname : m.name = name := by simpa using List.find?_some hfind
    have hm : name ∈ names computed := hname ▸ name_mem_names (List.mem_of_find?_eq_some hfind)
    exact ⟨(htrail hm).cyclic hpath, _, rfl⟩
  | case4 path plan name m hfind hnew hpath ihn ihd =>
    obtain rfl : m.name = name := by simpa using List.find?_some hfind
    have hm : m ∈ computed := List.mem_of_find?_eq_some hfind
    have hstep : ∀ d ∈ m.dependencies, d ∈ names computed → Trail computed (d :: m.name :: path) :=
      fun d hd hcomputed => (htrail (name_mem_names hm)).cons_cons ⟨m, hm, rfl, hd, hcomputed⟩
    have h₁ := ihn hplan (hstep _ m.numerator_mem)
    cases hn : visit computed (m.name :: path) plan m.numerator with
    | error e => rw [hn] at h₁; exact h₁
    | ok plan₁ =>
      rw [hn] at h₁
      have h₂ := ihd plan₁ h₁.ordered (hstep _ m.denominator_mem)
      show Ends computed path plan m.name (visit computed (m.name :: path) plan₁ m.denominator >>= _)
      cases hd : visit computed (m.name :: path) plan₁ m.denominator with
      | error e => rw [hd] at h₂; exact h₂
      | ok plan₂ =>
        rw [hd] at h₂
        exact h₁.snoc h₂ hm (fun h => hnew (any_name_eq.2 h)) hpath

/-! ## All visits -/

/-- Visits from no path at all, one after the other. -/
theorem foldlM_visit_ends (l : List ComputedMetric) (hl : l ⊆ computed)
    (hplan : Ordered computed plan) :
    (∃ later, l.foldlM (fun plan m => visit computed [] plan m.name) plan = .ok later ∧
      Ordered computed later ∧ names plan ⊆ names later ∧ names l ⊆ names later) ∨
    (Cyclic computed ∧
      ∃ chain, l.foldlM (fun plan m => visit computed [] plan m.name) plan = .error (.cycle chain)) := by
  induction l generalizing plan with
  | nil => exact .inl ⟨plan, rfl, hplan, List.Subset.refl _, List.nil_subset _⟩
  | cons m l ih =>
    have hm : m ∈ computed := hl List.mem_cons_self
    have hvisit : Ends computed [] plan m.name (visit computed [] plan m.name) :=
      visit_ends hplan fun _ => List.isChain_singleton _
    rw [List.foldlM_cons]
    cases hv : visit computed [] plan m.name with
    | error e =>
      rw [hv] at hvisit
      obtain ⟨hcyclic, chain, rfl⟩ := hvisit
      exact .inr ⟨hcyclic, chain, rfl⟩
    | ok plan₁ =>
      rw [hv] at hvisit
      rcases ih (List.subset_of_cons_subset hl) hvisit.ordered with
        ⟨later, hrun, hordered, hsub, hholds⟩ | hcycle
      · refine .inl ⟨later, hrun, hordered, ?_, ?_⟩
        · exact List.Subset.trans (names_subset_of_isPrefix hvisit.grows) hsub
        · exact List.cons_subset.2 ⟨hsub (hvisit.holds (name_mem_names hm)), hholds⟩
      · exact .inr hcycle

theorem ofMetrics_ends (computed : List ComputedMetric) :
    (∃ plan, ofMetrics computed = .ok plan ∧ Ordered computed plan ∧ names computed ⊆ names plan) ∨
    (Cyclic computed ∧ ∃ chain, ofMetrics computed = .error (.cycle chain)) := by
  rcases foldlM_visit_ends computed (List.Subset.refl _) .nil with ⟨plan, hrun, hordered, -, hall⟩ | h
  · exact .inl ⟨plan, hrun, hordered, hall⟩
  · exact .inr h

/-! ## The plan of a registry -/

section

variable {r : Registry}

theorem ordered_of_plan_eq_ok (h : r.plan = .ok plan) :
    Ordered r.computed plan ∧ names r.computed ⊆ names plan := by
  rcases ofMetrics_ends r.computed with ⟨plan', hplan, hordered⟩ | ⟨-, chain, hchain⟩
  · obtain rfl : plan' = plan := Except.ok.inj (hplan.symm.trans h)
    exact hordered
  · cases hchain.symm.trans h

theorem plan_eq_ok_of_not_cyclic (h : ¬ Cyclic r.computed) : ∃ plan, r.plan = .ok plan := by
  rcases ofMetrics_ends r.computed with ⟨plan, hplan, -⟩ | ⟨hcyclic, -⟩
  · exact ⟨plan, hplan⟩
  · exact absurd hcyclic h

theorem not_cyclic_of_plan_eq_ok (h : r.plan = .ok plan) : ¬ Cyclic r.computed :=
  (ordered_of_plan_eq_ok h).1.not_cyclic (names_computed_nodup r) (ordered_of_plan_eq_ok h).2

theorem plan_eq_error_of_cyclic (h : Cyclic r.computed) : ∃ chain, r.plan = .error (.cycle chain) := by
  rcases ofMetrics_ends r.computed with ⟨plan, hplan, -⟩ | ⟨-, hchain⟩
  · exact absurd h (not_cyclic_of_plan_eq_ok hplan)
  · exact hchain

theorem exists_plan_of_not_cyclic (h : ¬ Cyclic r.computed) :
    ∃ plan, r.plan = .ok plan ∧ Ordered r.computed plan ∧ plan.Perm r.computed := by
  obtain ⟨plan, hplan⟩ := plan_eq_ok_of_not_cyclic h
  obtain ⟨hordered, hall⟩ := ordered_of_plan_eq_ok hplan
  exact ⟨plan, hplan, hordered, hordered.perm (names_computed_nodup r) hall⟩

theorem wellFounded_of_not_cyclic (h : ¬ Cyclic r.computed) :
    WellFounded fun b a => Needs r.computed a b := by
  obtain ⟨plan, hplan⟩ := plan_eq_ok_of_not_cyclic h
  obtain ⟨hordered, hall⟩ := ordered_of_plan_eq_ok hplan
  exact wellFounded_needs (hordered.wellFounded (names_computed_nodup r) hall)

end

/-- Planning ends for every registry. It fails, and then at a cycle, exactly if some computed metric
reaches itself. Otherwise the plan is a permutation of the computed metrics, each of them after all
that it depends on. -/
theorem plan_sorts_iff_not_cyclic (r : Registry) :
    ((∃ chain, r.plan = .error (.cycle chain)) ↔ Cyclic r.computed) ∧
    ((∃ plan, r.plan = .ok plan ∧ plan.Perm r.computed ∧ plan.Nodup ∧ DependenciesFirst plan) ↔
      ¬ Cyclic r.computed) := by
  constructor
  · constructor
    · rintro ⟨chain, hchain⟩
      by_contra h
      obtain ⟨plan, hplan⟩ := plan_eq_ok_of_not_cyclic h
      cases hchain.symm.trans hplan
    · intro h
      rcases ofMetrics_ends r.computed with ⟨plan, hplan, -⟩ | ⟨-, hchain⟩
      · exact absurd h (not_cyclic_of_plan_eq_ok hplan)
      · exact hchain
  · constructor
    · rintro ⟨plan, hplan, -⟩
      exact not_cyclic_of_plan_eq_ok hplan
    · intro h
      obtain ⟨plan, hplan⟩ := plan_eq_ok_of_not_cyclic h
      obtain ⟨hordered, hall⟩ := ordered_of_plan_eq_ok hplan
      exact ⟨plan, hplan, hordered.perm (names_computed_nodup r) hall, hordered.nodup.of_map,
        hordered.dependenciesFirst⟩

end Yardstick.Plan
