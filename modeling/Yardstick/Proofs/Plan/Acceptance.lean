import Yardstick.Proofs.Plan.Visit
import Yardstick.Proofs.Report.Build

/-!
# The order of acceptance in a plan

A visit adds to a plan its metric and metrics that this one reaches, and nothing else (`mem_of_visit`).
So after the visits of the first metrics that a registry accepted, the plan holds these and what they
reach, and later visits only add to its end: a metric is planned ahead of its turn exactly if one that was
accepted before it needs it (`plan_follows_acceptance`).
-/

namespace Yardstick.Plan

variable {computed plan later l : List ComputedMetric} {path : List String} {a b name : String}
  {m c : ComputedMetric}

/-- The metric is one of the `chosen`, or a computed metric that one of them reaches. -/
def Needed (computed chosen : List ComputedMetric) (m : ComputedMetric) : Prop :=
  m ∈ chosen ∨ m ∈ computed ∧ ∃ c ∈ chosen, Reaches computed c.name m.name

/-! ## What is reached -/

theorem Reaches.left_mem (h : Reaches computed a b) : a ∈ names computed := by
  obtain ⟨c, hc, -⟩ := Relation.TransGen.head'_iff.1 h
  exact hc.left_mem

/-- A plan holds all that its metrics reach. -/
theorem Ordered.mem_of_reaches (hc : (names computed).Nodup) (h : Ordered computed plan)
    (ha : a ∈ names plan) (hreach : Reaches computed a b) : b ∈ names plan := by
  have hstep : ∀ {a b}, a ∈ names plan → DependsOn computed a b → b ∈ names plan := by
    rintro a b ha ⟨m, hm, rfl, hd, hb⟩
    obtain ⟨n, hn, hname⟩ := mem_names.1 ha
    obtain rfl := eq_of_name_eq hc (h.subset hn) hm hname
    exact h.closed hn hd hb
  induction hreach with
  | single hab => exact hstep ha hab
  | tail _ hbc ih => exact hstep ih hbc

/-- Everything new in the plan is the metric that was visited or one that it reaches. The induction
follows the visits. -/
theorem mem_of_visit (h : visit computed path plan name = .ok later) (hm : m ∈ later) :
    m ∈ plan ∨ m ∈ computed ∧ (m.name = name ∨ Reaches computed name m.name) := by
  fun_induction visit computed path plan name generalizing later with
  | case1 path plan name hfind => cases h; exact .inl hm
  | case2 path plan name n hfind hplanned => cases h; exact .inl hm
  | case3 path plan name n hfind hnew hpath => cases h
  | case4 path plan name n hfind hnew hpath ihn ihd =>
    obtain rfl : n.name = name := by simpa using List.find?_some hfind
    have hn : n ∈ computed := List.mem_of_find?_eq_some hfind
    -- what is reached from a dependency is reached from the metric
    have hlift : ∀ d ∈ n.dependencies, m ∈ computed → (m.name = d ∨ Reaches computed d m.name) →
        m.name = n.name ∨ Reaches computed n.name m.name := by
      rintro d hd hm (rfl | hreach)
      · exact .inr (.single ⟨n, hn, rfl, hd, name_mem_names hm⟩)
      · exact .inr (.head ⟨n, hn, rfl, hd, hreach.left_mem⟩ hreach)
    obtain ⟨plan₁, hn₁, h⟩ := bind_eq_ok.1 h
    obtain ⟨plan₂, hd₂, h⟩ := bind_eq_ok.1 h
    obtain rfl := Except.ok.inj h
    rcases List.mem_append.1 hm with hm | hm
    · rcases ihd plan₁ hd₂ hm with hm | ⟨hm, hreach⟩
      · rcases ihn hn₁ hm with hm | ⟨hm, hreach⟩
        · exact .inl hm
        · exact .inr ⟨hm, hlift _ n.numerator_mem hm hreach⟩
      · exact .inr ⟨hm, hlift _ n.denominator_mem hm hreach⟩
    · obtain rfl := List.mem_singleton.1 hm
      exact .inr ⟨hn, .inl rfl⟩

/-! ## Visits one after the other -/

/-- What the visits of some metrics make of a plan: it is longer at its end only, by these metrics and by
metrics that they reach. -/
structure AllVisited (computed plan l later : List ComputedMetric) : Prop where
  ordered : Ordered computed later
  grows : plan <+: later
  holds : names l ⊆ names later
  adds : ∀ m ∈ later, m ∈ plan ∨
    m ∈ computed ∧ ∃ c ∈ l, m.name = c.name ∨ Reaches computed c.name m.name

theorem allVisited_of_foldlM (hl : l ⊆ computed) (hplan : Ordered computed plan)
    (h : l.foldlM (fun plan m => visit computed [] plan m.name) plan = .ok later) :
    AllVisited computed plan l later := by
  induction l generalizing plan with
  | nil =>
    cases h
    exact ⟨hplan, List.prefix_rfl, List.nil_subset _, fun m hm => .inl hm⟩
  | cons c l ih =>
    rw [List.foldlM_cons] at h
    obtain ⟨plan₁, hvisit, h⟩ := bind_eq_ok.1 h
    have hends := visit_ends hplan fun _ => List.isChain_singleton c.name
    rw [hvisit] at hends
    have hrest := ih (List.subset_of_cons_subset hl) hends.ordered h
    have hc : c.name ∈ names plan₁ := hends.holds (name_mem_names (hl List.mem_cons_self))
    refine ⟨hrest.ordered, hends.grows.trans hrest.grows, ?_, fun m hm => ?_⟩
    · exact List.cons_subset.2 ⟨names_subset_of_isPrefix hrest.grows hc, hrest.holds⟩
    · rcases hrest.adds m hm with hm | ⟨hm, d, hd, hreach⟩
      · exact (mem_of_visit hvisit hm).imp_right fun ⟨hm, hreach⟩ =>
          ⟨hm, c, List.mem_cons_self, hreach⟩
      · exact .inr ⟨hm, d, List.mem_cons_of_mem _ hd, hreach⟩

/-- The visits of some metrics, made first, plan exactly these and what they reach. -/
theorem AllVisited.mem_iff (hc : (names computed).Nodup) (hl : l ⊆ computed)
    (h : AllVisited computed [] l later) (m : ComputedMetric) : m ∈ later ↔ Needed computed l m := by
  have hlater : ∀ m ∈ computed, m.name ∈ names later → m ∈ later := by
    intro m hm hname
    obtain ⟨n, hn, hname⟩ := mem_names.1 hname
    exact eq_of_name_eq hc (h.ordered.subset hn) hm hname ▸ hn
  constructor
  · intro hm
    obtain ⟨hm, c, hc', hreach⟩ := (h.adds m hm).resolve_left List.not_mem_nil
    rcases hreach with hname | hreach
    · exact .inl (eq_of_name_eq hc hm (hl hc') hname ▸ hc')
    · exact .inr ⟨hm, c, hc', hreach⟩
  · rintro (hm | ⟨hm, c, hc', hreach⟩)
    · exact hlater m (hl hm) (h.holds (name_mem_names hm))
    · exact hlater m hm (h.ordered.mem_of_reaches hc (h.holds (name_mem_names hc')) hreach)

/-! ## Metrics whose dependencies are planned -/

theorem visit_of_find? (h : computed.find? (·.name = name) = some m) :
    visit computed path plan name =
      if plan.any (·.name = name) then .ok plan
      else if name ∈ path then .error (.cycle (cycleChain name path))
      else do
        let plan ← visit computed (name :: path) plan m.numerator
        let plan ← visit computed (name :: path) plan m.denominator
        return plan ++ [m] := by
  rw [visit]
  split
  · next hnone => cases hnone.symm.trans h
  · next n hn =>
    obtain rfl := Option.some.inj (hn.symm.trans h)
    simp only [dite_eq_ite]

theorem visit_of_not_computed (h : name ∉ names computed) :
    visit computed path plan name = .ok plan := by
  rw [visit]
  split
  · rfl
  · next m hm => rw [find?_eq_none.2 h] at hm; cases hm

theorem visit_of_planned (h : name ∈ names plan) : visit computed path plan name = .ok plan := by
  cases hfind : computed.find? (·.name = name) with
  | none => exact visit_of_not_computed (find?_eq_none.1 hfind)
  | some m => rw [visit_of_find? hfind, if_pos (any_name_eq.2 h)]

theorem find?_of_mem (hc : (names computed).Nodup) (hm : m ∈ computed) :
    computed.find? (·.name = m.name) = some m := by
  cases hfind : computed.find? (·.name = m.name) with
  | none => exact absurd (name_mem_names hm) (find?_eq_none.1 hfind)
  | some n =>
    have hname : n.name = m.name := by simpa using List.find?_some hfind
    rw [eq_of_name_eq hc (List.mem_of_find?_eq_some hfind) hm hname]

/-- A metric whose dependencies are all planned is taken next. -/
theorem visit_of_provided (hc : (names computed).Nodup) (hm : m ∈ computed)
    (hnew : m.name ∉ names plan)
    (hdeps : ∀ d ∈ m.dependencies, d ∈ names computed → d ∈ names plan) :
    visit computed [] plan m.name = .ok (plan ++ [m]) := by
  have hdep : ∀ d ∈ m.dependencies, visit computed [m.name] plan d = .ok plan := by
    intro d hd
    by_cases hcomputed : d ∈ names computed
    · exact visit_of_planned (hdeps d hd hcomputed)
    · exact visit_of_not_computed hcomputed
  rw [visit_of_find? (find?_of_mem hc hm), if_neg (mt any_name_eq.1 hnew), if_neg List.not_mem_nil,
    hdep _ m.numerator_mem]
  show visit computed [m.name] plan m.denominator >>= _ = _
  rw [hdep _ m.denominator_mem]
  rfl

/-- Metrics that come in such an order are planned as they come. -/
theorem foldlM_visit_of_dependenciesFirst (hc : (names (plan ++ l)).Nodup)
    (hfirst : DependenciesFirst (plan ++ l)) :
    l.foldlM (fun plan' m => visit (plan ++ l) [] plan' m.name) plan = .ok (plan ++ l) := by
  generalize hcomputed : plan ++ l = computed at hc hfirst ⊢
  induction l generalizing plan with
  | nil => rw [← hcomputed, List.append_nil]; rfl
  | cons m l ih =>
    have hm : m ∈ computed := hcomputed ▸ List.mem_append_right plan List.mem_cons_self
    have hnew : m.name ∉ names plan := by
      rw [← hcomputed, names_append] at hc
      exact fun h => (List.nodup_append.1 hc).2.2 _ h _ List.mem_cons_self rfl
    have hdeps : ∀ d ∈ m.dependencies, d ∈ names computed → d ∈ names plan := by
      intro d hd hd'
      obtain ⟨n, hn, rfl⟩ := mem_names.1 hd'
      exact name_mem_names (hfirst plan m l hcomputed.symm n hn hd)
    rw [List.foldlM_cons, visit_of_provided hc hm hnew hdeps]
    exact ih (by rw [List.append_assoc]; exact hcomputed)

/-! ## One more metric -/

/-- A metric that none of the others depends on does not change their visits. -/
theorem visit_append (hneeds : ∀ m ∈ computed, c.name ∉ m.dependencies) (hname : name ≠ c.name) :
    visit (computed ++ [c]) path plan name = visit computed path plan name := by
  have hfound : ∀ {name n}, computed.find? (·.name = name) = some n →
      (computed ++ [c]).find? (·.name = name) = some n := by
    intro name n hfind
    rw [List.find?_append, hfind, Option.some_or]
  fun_induction visit computed path plan name with
  | case1 path plan name hfind =>
    refine visit_of_not_computed ?_
    rw [names_append, List.mem_append, not_or]
    exact ⟨find?_eq_none.1 hfind, by simpa [names] using hname⟩
  | case2 path plan name n hfind hplanned => exact visit_of_planned (any_name_eq.1 hplanned)
  | case3 path plan name n hfind hnew hpath =>
    rw [visit_of_find? (hfound hfind), if_neg hnew, if_pos hpath]
  | case4 path plan name n hfind hnew hpath ihn ihd =>
    have hother : ∀ d ∈ n.dependencies, d ≠ c.name := fun d hd heq =>
      hneeds n (List.mem_of_find?_eq_some hfind) (heq ▸ hd)
    rw [visit_of_find? (hfound hfind), if_neg hnew, if_neg hpath, ihn (hother _ n.numerator_mem)]
    exact bind_congr fun plan₁ => by rw [ihd plan₁ (hother _ n.denominator_mem)]

theorem foldlM_visit_append (hneeds : ∀ m ∈ computed, c.name ∉ m.dependencies)
    (hl : ∀ m ∈ l, m.name ≠ c.name) :
    l.foldlM (fun plan m => visit (computed ++ [c]) [] plan m.name) plan =
      l.foldlM (fun plan m => visit computed [] plan m.name) plan := by
  induction l generalizing plan with
  | nil => rfl
  | cons m l ih =>
    rw [List.forall_mem_cons] at hl
    rw [List.foldlM_cons, List.foldlM_cons, visit_append hneeds hl.1]
    exact bind_congr fun plan₁ => ih hl.2

/-! ## The plan of a registry -/

section

variable {r r' : Registry}

theorem name_mem_of_mem_computed (h : m ∈ r.computed) : m.name ∈ r.names := by
  obtain ⟨x, hx, hm⟩ := List.mem_filterMap.1 h
  cases x with
  | base b => cases hm
  | computed n => cases hm; exact List.mem_map_of_mem hx

/-- A computed metric that is accepted is the last of the computed ones, and new among them. -/
theorem computed_of_register (h : r.register (.computed c) = .ok r') :
    r'.computed = r.computed ++ [c] ∧ ∀ m ∈ r.computed, m.name ≠ c.name := by
  refine ⟨?_, fun m hm heq => ?_⟩
  · rw [Registry.computed, Registry.metrics_of_register h, List.filterMap_append]
    rfl
  · have htaken : c.name ∈ r.names := heq ▸ name_mem_of_mem_computed hm
    cases (Registry.register_of_mem (m := .computed c) htaken).symm.trans h

theorem isPrefix_of_plan (hplan : r.plan = .ok plan) (k : Nat) :
    ∃ first, first <+: plan ∧ ∀ m, m ∈ first ↔ Needed r.computed (r.computed.take k) m := by
  have hrun : (r.computed.take k ++ r.computed.drop k).foldlM
      (fun plan m => visit r.computed [] plan m.name) [] = .ok plan := by
    rw [List.take_append_drop]
    exact hplan
  rw [List.foldlM_append] at hrun
  obtain ⟨first, hfirst, hrest⟩ := bind_eq_ok.1 hrun
  have htaken : r.computed.take k ⊆ r.computed := List.take_subset k r.computed
  have hvisited := allVisited_of_foldlM htaken .nil hfirst
  have hgrows := (allVisited_of_foldlM (List.drop_subset k r.computed) hvisited.ordered hrest).grows
  exact ⟨first, hgrows, hvisited.mem_iff (names_computed_nodup r) htaken⟩

theorem plan_append (hplan : r.plan = .ok plan) (hregister : r.register (.computed c) = .ok r')
    (hneeds : ∀ m ∈ r.computed, c.name ∉ m.dependencies) (hacyclic : ¬ Cyclic r'.computed) :
    r'.plan = .ok (plan ++ [c]) := by
  obtain ⟨hcomputed, hnew⟩ := computed_of_register hregister
  obtain ⟨hordered, hall⟩ := ordered_of_plan_eq_ok hplan
  have hc : c ∈ r'.computed := hcomputed ▸ List.mem_append_right _ (List.mem_singleton_self c)
  have hself : c.name ∉ c.dependencies := fun hself =>
    hacyclic ⟨c.name, .single ⟨c, hc, rfl, hself, name_mem_names hc⟩⟩
  have hlast : visit (r.computed ++ [c]) [] plan c.name = .ok (plan ++ [c]) := by
    refine visit_of_provided (hcomputed ▸ names_computed_nodup r') (hcomputed ▸ hc) ?_
      fun d hd hd' => ?_
    · intro hplanned
      obtain ⟨m, hm, hname⟩ := mem_names.1 hplanned
      exact hnew m (hordered.subset hm) hname
    · rw [names_append, List.mem_append] at hd'
      rcases hd' with hd' | hd'
      · exact hall hd'
      · obtain rfl : d = c.name := by simpa [names] using hd'
        exact absurd hd hself
  have hbefore : r.computed.foldlM (fun plan m => visit (r.computed ++ [c]) [] plan m.name) [] = .ok plan :=
    (foldlM_visit_append hneeds hnew).trans hplan
  unfold Registry.plan ofMetrics
  rw [hcomputed, List.foldlM_append, hbefore]
  show visit (r.computed ++ [c]) [] plan c.name >>= _ = _
  rw [hlast]
  rfl

/-- Where there is no cycle, a plan follows the order of acceptance as far as dependencies allow: for every
number of metrics that were accepted first, these and what they reach are the first of the plan. So metrics
that were accepted after their dependencies are planned as they were accepted, and one more metric, that
none accepted before it depends on, comes at the end of the plan that there was. -/
theorem plan_follows_acceptance (h : ¬ Cyclic r.computed) :
    ∃ plan, r.plan = .ok plan ∧
      (∀ k, ∃ first, first <+: plan ∧
        ∀ m, m ∈ first ↔ Needed r.computed (r.computed.take k) m) ∧
      (DependenciesFirst r.computed → plan = r.computed) ∧
      ∀ c r', r.register (.computed c) = .ok r' → (∀ m ∈ r.computed, c.name ∉ m.dependencies) →
        ¬ Cyclic r'.computed → r'.plan = .ok (plan ++ [c]) := by
  obtain ⟨plan, hplan⟩ := plan_eq_ok_of_not_cyclic h
  refine ⟨plan, hplan, isPrefix_of_plan hplan, fun hfirst => ?_, fun c r' => plan_append hplan⟩
  have hrun := @foldlM_visit_of_dependenciesFirst [] r.computed (names_computed_nodup r) hfirst
  exact Except.ok.inj (hplan.symm.trans hrun)

end

/-- A strength is accepted first, the extract that it is made of last, and a loss in between. -/
def vintageRegistry : Registry where
  metrics :=
    [.computed ⟨"strength", "Strength", "", "vintage", .rate, "extract", "volume", by decide, by decide,
      by decide, by decide, by decide⟩,
     .computed ⟨"loss", "Loss", "", "vintage", .rate, "grapes", "volume", by decide, by decide,
      by decide, by decide, by decide⟩,
     .computed ⟨"extract", "Extract", "", "vintage", .average, "grapes", "vines", by decide, by decide,
      by decide, by decide, by decide⟩]
  nodup := by decide

/-- A bargain that is made of the loss. -/
def vintageBargain : ComputedMetric :=
  ⟨"bargain", "Bargain", "", "vintage", .average, "fee", "loss", by decide, by decide, by decide, by decide,
    by decide⟩

def bargainRegistry : Registry where
  metrics := vintageRegistry.metrics ++ [.computed vintageBargain]
  nodup := by decide

/-- The extract is planned ahead of the loss, for the strength; the bargain comes at the end. -/
theorem plan_follows_acceptance_vintageRegistry :
    ¬ Cyclic vintageRegistry.computed ∧
    ∃ plan, vintageRegistry.plan = .ok plan ∧ names plan = ["extract", "strength", "loss"] ∧
      (∃ first, first <+: plan ∧
        ∀ m, m ∈ first ↔ Needed vintageRegistry.computed (vintageRegistry.computed.take 1) m) ∧
      vintageRegistry.register (.computed vintageBargain) = .ok bargainRegistry ∧
      ¬ Cyclic bargainRegistry.computed ∧ bargainRegistry.plan = .ok (plan ++ [vintageBargain]) := by
  have hnames : vintageRegistry.plan.map names = .ok ["extract", "strength", "loss"] := by decide +kernel
  obtain ⟨plan, hplan, hnames⟩ := map_eq_ok.1 hnames
  have hacyclic := not_cyclic_of_plan_eq_ok hplan
  have hlater : bargainRegistry.plan.map names = .ok ["extract", "strength", "loss", "bargain"] := by
    decide +kernel
  obtain ⟨_, hlater, -⟩ := map_eq_ok.1 hlater
  have hacyclic' := not_cyclic_of_plan_eq_ok hlater
  obtain ⟨plan', hplan', hprefix, -, happend⟩ := plan_follows_acceptance hacyclic
  obtain rfl := Except.ok.inj (hplan'.symm.trans hplan)
  have hregister : vintageRegistry.register (.computed vintageBargain) = .ok bargainRegistry := rfl
  exact ⟨hacyclic, plan', hplan, hnames, hprefix 1, hregister, hacyclic',
    happend vintageBargain bargainRegistry hregister (by decide) hacyclic'⟩

end Yardstick.Plan
