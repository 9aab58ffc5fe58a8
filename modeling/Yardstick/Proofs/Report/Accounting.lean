import Yardstick.Proofs.Report.Missing

/-!
# Accounting for evaluations

A plan stops at its first metric that lacks a column or reads one that holds no numbers, and what stops it
is told by the registry and the frame alone (`Registry.fault?`), although the frame grows on the way. An
evaluation that succeeds is counted once for each metric of its plan, and one that fails for an error of the
engine once as a failure. Nothing is counted or noted when a cell is no number
(`Registry.evaluate_accounts_iff`).
-/

namespace Yardstick

open Plan

/-! ## Where a plan stops -/

/-- Why a column holds no numbers. -/
def Column.fault? (c : Column) : Option NumberFault :=
  match c.toFloats with
  | .error e => some e
  | .ok _ => none

section

variable {g : Frame} {m : ComputedMetric} {c n d : Column} {e : NumberFault}

theorem Column.fault?_eq_some : c.fault? = some e ↔ c.toFloats = .error e := by
  unfold fault?
  cases c.toFloats <;> simp

theorem Column.fault?_eq_none : c.fault? = none ↔ ∃ xs, c.toFloats = .ok xs := by
  unfold fault?
  cases c.toFloats <;> simp

/-- The numerator is converted before the denominator. -/
theorem Frame.extend_of_fault (hn : g.columns.get? m.numerator = some n)
    (hd : g.columns.get? m.denominator = some d) (h : n.fault?.or d.fault? = some e) :
    g.extend m = .error (.number e) := by
  unfold extend
  rw [hn, hd]
  rcases Option.or_eq_some_iff.1 h with h | ⟨hnone, h⟩
  · have hns := Column.fault?_eq_some.1 h
    simp only [hns]
  · obtain ⟨ns, hns⟩ := Column.fault?_eq_none.1 hnone
    have hds := Column.fault?_eq_some.1 h
    simp only [hns, hds]

theorem Frame.exists_extend_of_no_fault (hn : g.columns.get? m.numerator = some n)
    (hd : g.columns.get? m.denominator = some d) (h : n.fault?.or d.fault? = none) :
    ∃ h, g.extend m = .ok h := by
  obtain ⟨hn', hd'⟩ := Option.or_eq_none_iff.1 h
  obtain ⟨ns, hns⟩ := Column.fault?_eq_none.1 hn'
  obtain ⟨ds, hds⟩ := Column.fault?_eq_none.1 hd'
  exact exists_extend (floats?_eq_some.2 ⟨n, hn, hns⟩) (floats?_eq_some.2 ⟨d, hd, hds⟩)

end

namespace Registry

/-- Why the column of a name holds no numbers, if it is read from the frame and not computed. -/
def columnFault? (r : Registry) (f : Frame) (name : String) : Option NumberFault :=
  if name ∈ Plan.names r.computed then none else (f.columns.get? name).bind Column.fault?

/-- What keeps a metric from being computed, once the computed metrics that it needs are there. -/
def fault? (r : Registry) (f : Frame) (m : ComputedMetric) : Option Fault :=
  if r.lacking f m = [] then (m.dependencies.findSome? (r.columnFault? f)).map .number
  else some (.error (.missingColumns m.name (r.lacking f m)))

variable {r : Registry} {f g : Frame} {m : ComputedMetric} {plan : List ComputedMetric} {name : String}

section

variable (hplan : Ordered r.computed plan) (hfills : g.Fills plan f)
  (hdeps : ∀ d ∈ m.dependencies, d ∈ Plan.names r.computed → d ∈ Plan.names plan)

include hplan hfills hdeps

/-- The column of a dependency that somebody provides. -/
theorem exists_column (hprovided : r.lacking f m = []) (hd : name ∈ m.dependencies) :
    ∃ c, g.columns.get? name = some c ∧ c.fault? = r.columnFault? f name := by
  unfold columnFault?
  by_cases hcomputed : name ∈ Plan.names r.computed
  · obtain ⟨xs, hxs⟩ := hfills.exists_floats? (hdeps name hd hcomputed)
    obtain ⟨c, hc, hfloats⟩ := Frame.floats?_eq_some.1 hxs
    refine ⟨c, hc, ?_⟩
    rw [if_pos hcomputed, Column.fault?, hfloats]
  · have hthere : name ∈ f.names := by
      by_contra hnone
      exact lacking_ne_nil_iff.2 ⟨name, hd, hnone, hcomputed⟩ hprovided
    obtain ⟨c, hc⟩ := Option.isSome_iff_exists.1 (Frame.mem_names_iff.1 hthere)
    have hkept := hfills.kept name fun h => hcomputed (List.map_subset _ hplan.subset h)
    refine ⟨c, hkept.trans hc, ?_⟩
    rw [if_neg hcomputed, hc, Option.bind_some]

/-- One step: the metric planned next is computed unless something keeps it from that. -/
theorem extend_spec : (∀ e, r.fault? f m = some e → g.extend m = .error e) ∧
    (r.fault? f m = none → ∃ h, g.extend m = .ok h) := by
  have hmissing : g.missing m = r.lacking f m := missing_eq_lacking hplan hfills hdeps
  unfold fault?
  by_cases hprovided : r.lacking f m = []
  · rw [if_pos hprovided]
    obtain ⟨n, hn, hnfault⟩ := exists_column hplan hfills hdeps hprovided m.numerator_mem
    obtain ⟨d, hd, hdfault⟩ := exists_column hplan hfills hdeps hprovided m.denominator_mem
    have hboth : m.dependencies.findSome? (r.columnFault? f) = n.fault?.or d.fault? := by
      rw [hnfault, hdfault, ComputedMetric.dependencies, List.findSome?_cons, List.findSome?_cons]
      cases r.columnFault? f m.numerator <;> cases r.columnFault? f m.denominator <;> rfl
    rw [hboth]
    refine ⟨fun e he => ?_, fun hnone => ?_⟩
    · obtain ⟨n', hn', rfl⟩ := Option.map_eq_some_iff.1 he
      exact Frame.extend_of_fault hn hd hn'
    · exact Frame.exists_extend_of_no_fault hn hd (Option.map_eq_none_iff.1 hnone)
  · rw [if_neg hprovided]
    refine ⟨fun e he => ?_, fun hnone => ?_⟩
    · obtain rfl := Option.some.inj he
      rw [← hmissing]
      exact Frame.extend_of_missing (hmissing ▸ hprovided)
    · cases hnone

end

/-- All steps: a plan runs to its end unless something keeps one of its metrics from being computed, and
then it stops at the first. -/
theorem evaluate_spec (hplan : Ordered r.computed plan) :
    (∀ e, plan.findSome? (r.fault? f) = some e → f.evaluate plan = .error e) ∧
    (plan.findSome? (r.fault? f) = none → ∃ g, f.evaluate plan = .ok g) := by
  induction hplan with
  | nil =>
    refine ⟨fun e he => ?_, fun _ => ⟨f, rfl⟩⟩
    cases he
  | @snoc plan m hplan hm hnew hdeps ih =>
    rw [Frame.evaluate_snoc, List.findSome?_append, List.findSome?_singleton]
    cases hbefore : plan.findSome? (r.fault? f) with
    | some e =>
      rw [ih.1 e hbefore]
      refine ⟨fun e' he => ?_, fun hnone => ?_⟩
      · obtain rfl := Option.some.inj he
        rfl
      · cases hnone
    | none =>
      obtain ⟨g, hg⟩ := ih.2 hbefore
      rw [hg, Option.none_or]
      exact extend_spec hplan (Frame.fills_of_evaluate hplan hg) hdeps

theorem evaluatePlan_spec (h : r.plan = .ok plan) :
    (∀ e, plan.findSome? (r.fault? f) = some e → r.evaluatePlan f = .error e) ∧
    (plan.findSome? (r.fault? f) = none → ∃ g, r.evaluatePlan f = .ok (plan, g)) := by
  have hspec := r.evaluate_spec (f := f) (ordered_of_plan_eq_ok h).1
  have hrun : r.evaluatePlan f = (f.evaluate plan).map (plan, ·) := by
    unfold evaluatePlan
    rw [h]
    show (f.evaluate plan >>= fun g => .ok (plan, g)) = _
    cases f.evaluate plan <;> rfl
  rw [hrun]
  refine ⟨fun e he => ?_, fun hnone => ?_⟩
  · rw [hspec.1 e he]
    rfl
  · obtain ⟨g, hg⟩ := hspec.2 hnone
    exact ⟨g, by rw [hg]; rfl⟩

end Registry

/-! ## What is counted -/

namespace Journaled

variable {α : Type}

/-- Counting one thing for each of a list. -/
theorem run_forM_count (c : α → Counter) (l : List α) (j : Journal) :
    StateT.run (ExceptT.run (l.forM fun a => count (c a))) j =
      (.ok (), { j with increments := j.increments ++ l.map c }) := by
  induction l generalizing j with
  | nil => rw [List.map_nil, List.append_nil]; rfl
  | cons a l ih =>
    show StateT.run (ExceptT.run (l.forM fun a => count (c a))) (j.count (c a)) = _
    rw [ih, List.map_cons, List.append_cons]
    rfl

end Journaled

/-- The outcome of an evaluation is accounted for: a success by one count for each metric of the plan, under
its formula, and a failure by one count, which is under the family of the error if the engine has one for it,
and by a record. -/
def Registry.AccountsFor (r : Registry) : Except Fault Frame × Journal → Prop
  | (.ok _, journal) =>
    ∃ plan, r.plan = .ok plan ∧ journal.increments = plan.map fun m => .evaluated m.formula
  | (.error fault, journal) =>
    ∃ family, journal.increments = [.evaluationFailed family] ∧
      (∀ e, fault = .error e → family = e.family) ∧
      ∃ record ∈ journal.records, record.level = .error ∧ record.event = "report_evaluation_failed"

namespace Registry

open Journaled

variable {r : Registry} {f g : Frame} {plan : List ComputedMetric} {fault : Fault} {e : Error}

theorem outcome_evaluate_of_ok (h : r.evaluatePlan f = .ok (plan, g)) :
    (r.evaluate f).outcome = (.ok g,
      ⟨[⟨.info, "report_evaluated",
          [("rows", .int g.rows), ("computed_metrics", .arr (plan.map fun m => .str m.name))]⟩],
        plan.map fun m => .evaluated m.formula⟩) := by
  unfold Registry.evaluate
  rw [h]
  show StateT.run (ExceptT.run (plan.forM fun m => count (.evaluated m.formula)) >>=
    ExceptT.bindCont fun _ => _) .empty = _
  rw [StateT.run_bind, run_forM_count]
  rfl

theorem outcome_evaluate_of_error (h : r.evaluatePlan f = .error (.error e)) :
    (r.evaluate f).outcome = (.error (.error e),
      ⟨[⟨.error, "report_evaluation_failed", e.fields⟩], [.evaluationFailed e.family]⟩) := by
  unfold Registry.evaluate
  rw [h]
  rfl

/-- A fault that is no error of the engine passes by. -/
theorem outcome_evaluate_of_other (h : r.evaluatePlan f = .error fault) (hother : fault.error? = none) :
    (r.evaluate f).outcome = (.error fault, .empty) := by
  unfold Registry.evaluate
  rw [h]
  cases fault <;> first | rfl | cases hother

theorem accountsFor_of_ok (h : r.evaluatePlan f = .ok (plan, g)) (hplan : r.plan = .ok plan) :
    r.AccountsFor (r.evaluate f).outcome := by
  rw [outcome_evaluate_of_ok h]
  exact ⟨plan, hplan, rfl⟩

theorem accountsFor_of_error (h : r.evaluatePlan f = .error (.error e)) :
    r.AccountsFor (r.evaluate f).outcome := by
  rw [outcome_evaluate_of_error h]
  refine ⟨e.family, rfl, fun e' he => ?_, _, List.mem_cons_self, rfl, rfl⟩
  cases he
  rfl

/-- What stops a plan is an error of the engine or a cell that is no number. -/
theorem error_or_number_of_findSome? (h : plan.findSome? (r.fault? f) = some fault) :
    (∃ e, fault = .error e) ∨ ∃ n, fault = .number n := by
  obtain ⟨m, -, hm⟩ := List.exists_of_findSome?_eq_some h
  unfold fault? at hm
  split at hm
  · obtain ⟨n, -, rfl⟩ := Option.map_eq_some_iff.1 hm
    exact .inr ⟨n, rfl⟩
  · exact .inl ⟨_, (Option.some.inj hm).symm⟩

/-- The outcome of an evaluation is accounted for unless its plan stops at a metric whose columns are all
there but hold a cell that is no number, before any metric that lacks a column. In that case the evaluation
fails for this cell, and neither counts nor notes anything. -/
theorem evaluate_accounts_iff (r : Registry) (f : Frame) :
    (r.AccountsFor (r.evaluate f).outcome ↔
      ∀ plan n, r.plan = .ok plan → plan.findSome? (r.fault? f) ≠ some (.number n)) ∧
    ∀ plan n, r.plan = .ok plan → plan.findSome? (r.fault? f) = some (.number n) →
      (r.evaluate f).outcome = (.error (.number n), .empty) := by
  have hnumber : ∀ plan n, r.plan = .ok plan → plan.findSome? (r.fault? f) = some (.number n) →
      (r.evaluate f).outcome = (.error (.number n), .empty) := fun plan n hplan hstop =>
    outcome_evaluate_of_other ((evaluatePlan_spec hplan).1 _ hstop) rfl
  refine ⟨⟨fun haccounts plan n hplan hstop => ?_, fun hnone => ?_⟩, hnumber⟩
  · rw [hnumber plan n hplan hstop] at haccounts
    obtain ⟨family, hcount, -⟩ := haccounts
    cases hcount
  · cases hplan : r.plan with
    | error e =>
      refine accountsFor_of_error (e := e) ?_
      unfold evaluatePlan
      rw [hplan]
      rfl
    | ok plan =>
      cases hstop : plan.findSome? (r.fault? f) with
      | none =>
        obtain ⟨g, hg⟩ := (evaluatePlan_spec hplan).2 hstop
        exact accountsFor_of_ok hg hplan
      | some fault =>
        rcases error_or_number_of_findSome? hstop with ⟨e, rfl⟩ | ⟨n, rfl⟩
        · exact accountsFor_of_error ((evaluatePlan_spec hplan).1 _ hstop)
        · exact absurd hstop (hnone plan n hplan)

/-- Amounts and visits, one of which is a word. -/
def wordyFrame : Frame := amountsFrame.put "visits" (.mixed [.text "many", .missing]) rfl

/-- The basket is planned first, and its visits are no numbers: the failure is neither counted nor noted. -/
theorem evaluate_wordyFrame :
    (basketRegistry.evaluate wordyFrame).outcome = (.error (.number (.notNumeric "many")), .empty) ∧
      ¬ basketRegistry.AccountsFor (basketRegistry.evaluate wordyFrame).outcome := by
  have hrun : (basketRegistry.plan.map fun plan => plan.findSome? (basketRegistry.fault? wordyFrame)) =
      .ok (some (.number (.notNumeric "many"))) := by decide +kernel
  obtain ⟨plan, hplan, hstop⟩ := map_eq_ok.1 hrun
  have houtcome : (basketRegistry.evaluate wordyFrame).outcome =
      (.error (.number (.notNumeric "many")), .empty) :=
    outcome_evaluate_of_other ((evaluatePlan_spec hplan).1 _ hstop) rfl
  refine ⟨houtcome, fun haccounts => ?_⟩
  rw [houtcome] at haccounts
  obtain ⟨family, hcount, -⟩ := haccounts
  cases hcount

end Registry

end Yardstick
