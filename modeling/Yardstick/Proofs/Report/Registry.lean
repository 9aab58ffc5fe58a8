import Yardstick.Proofs.Outcome
import Yardstick.Report.Build
import Yardstick.Report.Evaluation

/-!
# Reports without the journal

Apart from its journal, a report is built as `ReportDefinition.registry` says and evaluated as
`Registry.evaluatePlan` says.
-/

namespace Yardstick

open Journaled

/-! ## Building -/

/-- The metrics asked for of a dimension, or the first fault in building one. -/
def DimensionRequest.metrics (q : DimensionRequest) (t : Translator) : Except Fault (List Metric) :=
  (q.attempts t).mapM id

/-- The registry with some more metrics. -/
def Registry.registerAll (r : Registry) (ms : List Metric) : Except Fault Registry :=
  ms.foldlM (fun r m => (r.register m).mapError .error) r

/-- The registry of a report. -/
def ReportDefinition.registry (d : ReportDefinition) (t : Translator) : Except Fault Registry :=
  d.dimensions.foldlM (fun r q => q.metrics t >>= r.registerAll) .empty

theorem yields_noteBuilt (attempt : Except Fault Metric) : (noteBuilt attempt).Yields attempt :=
  (yields_ofExcept attempt).bind_self fun _ _ => rfl

theorem DimensionRequest.yields_build (q : DimensionRequest) (t : Translator) :
    (q.build t).Yields (q.metrics t) :=
  (yields_mapM yields_noteBuilt (q.attempts t)).bind_self fun _ _ => rfl

theorem Registry.yields_accept (r : Registry) (m : Metric) :
    (r.accept m).Yields ((r.register m).mapError .error) :=
  (yields_ofExcept _).bind_self fun _ _ => rfl

theorem Registry.yields_acceptAll (t : Translator) (r : Registry) (q : DimensionRequest) :
    (r.acceptAll t q).Yields (q.metrics t >>= r.registerAll) :=
  (q.yields_build t).bind fun ms => yields_foldlM Registry.yields_accept ms r

theorem ReportDefinition.yields_build (d : ReportDefinition) (t : Translator) :
    (d.build t).Yields (d.registry t) := by
  have hfold : (d.dimensions.foldlM (Registry.acceptAll t) .empty).Yields (d.registry t) :=
    yields_foldlM (Registry.yields_acceptAll t) d.dimensions .empty
  have herror (e : Error) : Yields (do
      count (.buildFailed e.family)
      note .error "report_build_failed" (("report_id", .str d.id) :: e.fields)) (.ok ()) :=
    fun _ => rfl
  intro j
  exact (hfold.onError herror).bind_self (fun _ _ => rfl) _

/-! ## Registering -/

section

variable {r r' : Registry}

theorem Registry.metrics_of_register {m : Metric} (h : r.register m = .ok r') :
    r'.metrics = r.metrics ++ [m] := by
  unfold Registry.register at h
  split at h
  · cases h
  · cases h; rfl

theorem Registry.metrics_of_registerAll {ms : List Metric} (h : r.registerAll ms = .ok r') :
    r'.metrics = r.metrics ++ ms := by
  unfold Registry.registerAll at h
  induction ms generalizing r with
  | nil => cases h; rw [List.append_nil]
  | cons m ms ih =>
    rw [List.foldlM_cons] at h
    obtain ⟨r₁, h₁, h⟩ := bind_eq_ok.1 h
    rw [ih h, Registry.metrics_of_register (mapError_eq_ok.1 h₁), List.append_assoc,
      List.singleton_append]

end

/-! ## Evaluating -/

theorem Registry.yields_evaluate (r : Registry) (f : Frame) :
    (r.evaluate f).Yields ((r.evaluatePlan f).map (·.2)) := by
  have herror (e : Error) : Yields (do
      count (.evaluationFailed e.family)
      note .error "report_evaluation_failed" e.fields) (.ok ()) :=
    fun _ => rfl
  refine ((yields_ofExcept (r.evaluatePlan f)).onError herror).bind (g := fun p => .ok p.2) ?_
  rintro ⟨plan, result⟩
  have hcount := yields_forM (fun m => yields_count (.evaluated m.formula)) plan
  exact hcount.bind (g := fun _ => .ok result) (by intro _ _; rfl)

/-- A report is planned, and then evaluated in the order of the plan. -/
theorem Registry.outcome_evaluate (r : Registry) (f : Frame) :
    (r.evaluate f).outcome.1 = r.plan.mapError .error >>= f.evaluate := by
  rw [(r.yields_evaluate f).outcome]
  unfold Registry.evaluatePlan
  cases r.plan with
  | error e => rfl
  | ok plan =>
    show ((f.evaluate plan >>= fun result => .ok (plan, result)).map (·.2)) = f.evaluate plan
    cases f.evaluate plan <;> rfl

end Yardstick
