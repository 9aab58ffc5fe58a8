import Yardstick.Proofs.Outcome
import Yardstick.Proofs.Plan.Visit

/-!
# The cycle that is reported

The metrics being visited are a way through the dependencies that passes none twice. A visit that comes
back to one of them has walked a cycle from that metric on, whatever led to it and whatever has been
planned before. Planning fails for such a cycle and for nothing else, and its message tells the names on
it (`simpleCycle_of_plan`).
-/

namespace Yardstick.Plan

variable {computed plan later : List ComputedMetric} {path chain : List String} {name : String}

/-- A way from a computed metric back to itself, along dependencies, that passes no metric twice. -/
structure SimpleCycle (computed : List ComputedMetric) (chain : List String) : Prop where
  closed : ∃ name between, chain = name :: between ++ [name]
  nodup : chain.dropLast.Nodup
  registered : ∀ name ∈ chain, name ∈ names computed
  linked : chain.IsChain (Needs computed)

/-- The metrics being visited, the last first: a trail of computed metrics, none of them twice. -/
structure Visiting (computed : List ComputedMetric) (path : List String) : Prop where
  trail : Trail computed path
  nodup : path.Nodup
  registered : path ⊆ names computed

theorem Visiting.nil : Visiting computed [] :=
  ⟨List.isChain_nil, List.nodup_nil, List.nil_subset _⟩

theorem Visiting.cons (h : Visiting computed path) (htrail : Trail computed (name :: path))
    (hpath : name ∉ path) (hname : name ∈ names computed) : Visiting computed (name :: path) :=
  ⟨htrail, List.nodup_cons.2 ⟨hpath, h.nodup⟩, List.cons_subset.2 ⟨hname, h.registered⟩⟩

/-- The chain goes through the metrics visited since the name was first met. -/
theorem exists_cycleChain (h : name ∈ path) :
    ∃ between rest, path = between ++ name :: rest ∧
      cycleChain name path = name :: between.reverse ++ [name] := by
  obtain ⟨between, rest, rfl, hfirst⟩ := List.eq_append_cons_of_mem h
  have hne : ∀ n ∈ between, (n != name) = true := fun n hn =>
    bne_iff_ne.2 fun heq => hfirst (heq ▸ hn)
  refine ⟨between, rest, rfl, ?_⟩
  rw [cycleChain, List.takeWhile_append_of_pos hne, List.takeWhile_cons_of_neg (by simp),
    List.append_nil]

/-- A trail that comes back to a metric being visited has closed a cycle. -/
theorem simpleCycle_cycleChain (hvisiting : Visiting computed path)
    (htrail : Trail computed (name :: path)) (hpath : name ∈ path) :
    SimpleCycle computed (cycleChain name path) := by
  obtain ⟨between, rest, rfl, hchain⟩ := exists_cycleChain hpath
  -- the trail goes backwards, from the name to where it was first met
  have hback : (name :: between ++ [name]).IsChain fun b a => Needs computed a b := by
    have hsplit : name :: (between ++ name :: rest) = (name :: between ++ [name]) ++ rest := by simp
    have hall : Trail computed ((name :: between ++ [name]) ++ rest) := hsplit ▸ htrail
    exact hall.left_of_append.imp fun _ _ => DependsOn.needs
  have hnodup : (name :: between).Nodup :=
    (List.nodup_middle.1 hvisiting.nodup).sublist (List.sublist_append_left (name :: between) rest)
  rw [hchain]
  refine ⟨⟨name, between.reverse, rfl⟩, ?_, fun n hn => hvisiting.registered ?_, ?_⟩
  · rw [List.dropLast_concat]
    exact hnodup.perm ((List.reverse_perm between).symm.cons name)
  · simp only [List.cons_append, List.mem_cons, List.mem_append, List.mem_reverse,
      List.not_mem_nil, or_false] at hn ⊢
    tauto
  · have hreverse : (name :: between ++ [name]).reverse = name :: between.reverse ++ [name] := by simp
    exact hreverse ▸ List.isChain_reverse.2 hback

/-- The induction follows the visits: each visit inside of another is made from one metric more. -/
theorem simpleCycle_of_visit {e : Error} (hvisiting : Visiting computed path)
    (htrail : name ∈ names computed → Trail computed (name :: path))
    (h : visit computed path plan name = .error e) :
    ∃ chain, e = .cycle chain ∧ SimpleCycle computed chain := by
  fun_induction visit computed path plan name with
  | case1 path plan name hfind => cases h
  | case2 path plan name m hfind hplanned => cases h
  | case3 path plan name m hfind hnew hpath =>
    have hname : name ∈ names computed := by
      by_contra hnone
      rw [find?_eq_none.2 hnone] at hfind
      cases hfind
    exact ⟨_, (Except.error.inj h).symm, simpleCycle_cycleChain hvisiting (htrail hname) hpath⟩
  | case4 path plan name m hfind hnew hpath ihn ihd =>
    obtain rfl : m.name = name := by simpa using List.find?_some hfind
    have hm : m ∈ computed := List.mem_of_find?_eq_some hfind
    have htrail := htrail (name_mem_names hm)
    have hinside := hvisiting.cons htrail hpath (name_mem_names hm)
    have hstep : ∀ d ∈ m.dependencies, d ∈ names computed → Trail computed (d :: m.name :: path) :=
      fun d hd hcomputed => htrail.cons_cons ⟨m, hm, rfl, hd, hcomputed⟩
    rcases bind_eq_error.1 h with hn | ⟨plan₁, hn, h⟩
    · exact ihn hinside (hstep _ m.numerator_mem) hn
    · rcases bind_eq_error.1 h with hd | ⟨plan₂, hd, h⟩
      · exact ihd plan₁ hinside (hstep _ m.denominator_mem) hd
      · cases h

/-- A failure to plan tells a cycle of the registry: the names in its message, one after the other, are
names of computed metrics, each with the next among its dependencies; the last is the first again, and the
others are different. -/
theorem simpleCycle_of_plan {r : Registry} {e : Error} (h : r.plan = .error e) :
    ∃ chain, SimpleCycle r.computed chain ∧ e = .cycle chain ∧
      e.message = "Cyclic computed metrics: " ++ " -> ".intercalate chain := by
  obtain ⟨m, hm, plan, hvisit⟩ := exists_of_foldlM_eq_error h
  obtain ⟨chain, rfl, hcycle⟩ := simpleCycle_of_visit .nil (fun _ => List.isChain_singleton _) hvisit
  exact ⟨chain, hcycle, rfl, rfl⟩

/-- A punctuality and a delay that need each other. The cycle is entered from the outlook, after the load
has been planned. -/
def outlookRegistry : Registry where
  metrics :=
    [.computed ⟨"load", "Load", "", "travel", .average, "seats", "flights", by decide, by decide,
      by decide, by decide, by decide⟩,
     .computed ⟨"outlook", "Outlook", "", "travel", .rate, "load", "punctuality", by decide, by decide,
      by decide, by decide, by decide⟩,
     .computed ⟨"punctuality", "Punctuality", "", "travel", .rate, "delay", "seats", by decide, by decide,
      by decide, by decide, by decide⟩,
     .computed ⟨"delay", "Delay", "", "travel", .rate, "load", "punctuality", by decide, by decide,
      by decide, by decide, by decide⟩]
  nodup := by decide

theorem simpleCycle_of_plan_outlookRegistry :
    ∃ e, outlookRegistry.plan = .error e ∧
      e.message = "Cyclic computed metrics: punctuality -> delay -> punctuality" ∧
      SimpleCycle outlookRegistry.computed ["punctuality", "delay", "punctuality"] := by
  have hplan : outlookRegistry.plan = .error (.cycle ["punctuality", "delay", "punctuality"]) := by
    decide +kernel
  obtain ⟨chain, hcycle, hchain, -⟩ := simpleCycle_of_plan hplan
  obtain rfl := Error.cycle.inj hchain
  exact ⟨_, hplan, rfl, hcycle⟩

end Yardstick.Plan
