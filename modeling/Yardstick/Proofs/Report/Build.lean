import Mathlib.Data.List.Nodup
import Yardstick.Proofs.Report.Registry
import Yardstick.Proofs.Report.Requests

/-!
# What a report is built of

A report is built if every request makes a metric on its own and no two of these have one name; it then
holds exactly these metrics, in the order of the requests. Otherwise the first dimension that cannot
follow those before it decides on the error, a request that makes no metric before a name that is
taken, whatever dimensions come after it.
-/

namespace Yardstick

/-- What becomes of all requests of some dimensions, each on its own. -/
def answers (t : Translator) (qs : List DimensionRequest) : List (Except Fault Metric) :=
  qs.flatMap fun q => q.requests.map (Request.make q.dimension t)

/-- How a dimension fails when the metrics of those before it are `taken`. -/
inductive DimensionRequest.FailsAfter (q : DimensionRequest) (t : Translator) (taken : List Metric) :
    Fault → Prop
  /-- At the first request that makes no metric. -/
  | unbuilt {done : List Request} {x : Request} {rest : List Request} {ms : List Metric} {e : Fault} :
    q.requests = done ++ x :: rest → done.map (Request.make q.dimension t) = ms.map .ok →
      x.make q.dimension t = .error e → q.FailsAfter t taken e
  /-- All requests make metrics, and this is the first of them whose name is taken. -/
  | collides {before : List Metric} {m : Metric} {after : List Metric} :
    q.requests.map (Request.make q.dimension t) = (before ++ m :: after).map .ok →
      ((taken ++ before).map Metric.name).Nodup → m.name ∈ (taken ++ before).map Metric.name →
        q.FailsAfter t taken (.error (.duplicate m.name))

/-! ## Registering -/

namespace Registry

variable {r r' : Registry} {m : Metric} {ms ns : List Metric} {e : Fault}

theorem eq_of_metrics_eq (h : r.metrics = r'.metrics) : r = r' := by
  cases r
  cases r'
  cases h
  rfl

theorem register_of_mem (h : m.name ∈ r.names) : r.register m = .error (.duplicate m.name) := dif_pos h

theorem exists_register_of_not_mem (h : m.name ∉ r.names) : ∃ r', r.register m = .ok r' :=
  ⟨_, dif_neg h⟩

theorem registerAll_append (r : Registry) (ms ns : List Metric) :
    r.registerAll (ms ++ ns) = r.registerAll ms >>= (·.registerAll ns) := List.foldlM_append

theorem registerAll_cons (r : Registry) (m : Metric) (ms : List Metric) :
    r.registerAll (m :: ms) = (r.register m).mapError .error >>= (·.registerAll ms) := List.foldlM_cons

/-- Metrics with new and different names are registered. -/
theorem exists_registerAll (h : ((r.metrics ++ ms).map Metric.name).Nodup) :
    ∃ r', r.registerAll ms = .ok r' := by
  induction ms generalizing r with
  | nil => exact ⟨r, rfl⟩
  | cons m ms ih =>
    have hnew : m.name ∉ r.names := by
      rw [List.map_append, List.nodup_append] at h
      exact fun hm => h.2.2 m.name hm m.name (by simp) rfl
    obtain ⟨r₁, hr₁⟩ := exists_register_of_not_mem hnew
    have hmetrics := metrics_of_register hr₁
    obtain ⟨r', hr'⟩ := @ih r₁ (by rwa [hmetrics, List.append_assoc])
    rw [registerAll_cons, hr₁]
    exact ⟨r', hr'⟩

theorem registerAll_eq_ok_iff : r.registerAll ms = .ok r' ↔ r'.metrics = r.metrics ++ ms := by
  constructor
  · exact metrics_of_registerAll
  · intro h
    have hnodup : ((r.metrics ++ ms).map Metric.name).Nodup := h ▸ r'.nodup
    obtain ⟨r₁, hr₁⟩ := exists_registerAll hnodup
    rw [hr₁, eq_of_metrics_eq ((metrics_of_registerAll hr₁).trans h.symm)]

/-- Registering stops at the first name that is taken. -/
theorem registerAll_eq_error_iff : r.registerAll ms = .error e ↔
    ∃ before m after, ms = before ++ m :: after ∧
      ((r.metrics ++ before).map Metric.name).Nodup ∧
      m.name ∈ (r.metrics ++ before).map Metric.name ∧ e = .error (.duplicate m.name) := by
  constructor
  · intro h
    induction ms generalizing r with
    | nil => cases h
    | cons m ms ih =>
      rw [registerAll_cons] at h
      by_cases hm : m.name ∈ r.names
      · rw [register_of_mem hm] at h
        cases h
        refine ⟨[], m, ms, rfl, ?_, ?_, rfl⟩
        · rw [List.append_nil]
          exact r.nodup
        · rw [List.append_nil]
          exact hm
      · obtain ⟨r₁, hr₁⟩ := exists_register_of_not_mem hm
        rw [hr₁] at h
        obtain ⟨before, m', after, rfl, hnodup, htaken, he⟩ := ih h
        rw [metrics_of_register hr₁, List.append_assoc] at hnodup htaken
        exact ⟨m :: before, m', after, rfl, hnodup, htaken, he⟩
  · rintro ⟨before, m, after, rfl, hnodup, htaken, rfl⟩
    obtain ⟨r₁, hr₁⟩ := exists_registerAll hnodup
    rw [registerAll_append, hr₁]
    have hmem : m.name ∈ r₁.names := by
      rw [names, metrics_of_registerAll hr₁]
      exact htaken
    show r₁.registerAll (m :: after) = _
    rw [registerAll_cons, register_of_mem hmem]
    rfl

/-- Reading the metrics back by name gives each of them in its place. -/
theorem map_find?_names (r : Registry) : r.names.map r.find? = r.metrics.map some := by
  unfold names find?
  rw [List.map_map]
  refine List.map_congr_left fun m hm => ?_
  obtain ⟨n, hn⟩ : ∃ n, r.metrics.find? (·.name = m.name) = some n := by
    rw [← Option.isSome_iff_exists, List.find?_isSome]
    exact ⟨m, hm, decide_eq_true rfl⟩
  have hname : n.name = m.name := by simpa using List.find?_some hn
  obtain rfl := List.inj_on_of_nodup_map r.nodup (List.mem_of_find?_eq_some hn) hm hname
  exact hn

end Registry

/-! ## One dimension -/

section

variable {q : DimensionRequest} {qs : List DimensionRequest} {t : Translator} {r r' : Registry}
  {ms : List Metric} {e : Fault}

theorem DimensionRequest.metrics_eq_ok_iff :
    q.metrics t = .ok ms ↔ q.requests.map (Request.make q.dimension t) = ms.map .ok := by
  rw [metrics, mapM_id_eq_ok, attempts_eq]

theorem registerDimension_eq_ok_iff : q.metrics t >>= r.registerAll = .ok r' ↔
    ∃ ms, q.requests.map (Request.make q.dimension t) = ms.map .ok ∧ r'.metrics = r.metrics ++ ms := by
  simp only [bind_eq_ok, DimensionRequest.metrics_eq_ok_iff, Registry.registerAll_eq_ok_iff]

/-- All metrics are built before the first is registered, so an error in building comes first. -/
theorem registerDimension_eq_error_iff :
    q.metrics t >>= r.registerAll = .error e ↔ q.FailsAfter t r.metrics e := by
  rw [bind_eq_error]
  constructor
  · rintro (h | ⟨ms, hms, h⟩)
    · rw [DimensionRequest.metrics, mapM_id_eq_error, DimensionRequest.attempts_eq] at h
      obtain ⟨ms, rest, h⟩ := h
      obtain ⟨done, todo, hrequests, hdone, htodo⟩ := List.map_eq_append_iff.1 h
      obtain ⟨x, rest, rfl, hx, -⟩ := List.map_eq_cons_iff.1 htodo
      exact .unbuilt hrequests hdone hx
    · obtain ⟨before, m, after, rfl, hnodup, htaken, rfl⟩ := Registry.registerAll_eq_error_iff.1 h
      exact .collides (DimensionRequest.metrics_eq_ok_iff.1 hms) hnodup htaken
  · rintro (⟨hrequests, hdone, hx⟩ | ⟨hbuilt, hnodup, htaken⟩)
    · refine .inl ?_
      rw [DimensionRequest.metrics, mapM_id_eq_error, DimensionRequest.attempts_eq, hrequests,
        List.map_append, hdone, List.map_cons, hx]
      exact ⟨_, _, rfl⟩
    · exact .inr ⟨_, DimensionRequest.metrics_eq_ok_iff.2 hbuilt,
        Registry.registerAll_eq_error_iff.2 ⟨_, _, _, rfl, hnodup, htaken, rfl⟩⟩

/-! ## All dimensions -/

theorem answers_cons (t : Translator) (q : DimensionRequest) (qs : List DimensionRequest) :
    answers t (q :: qs) = q.requests.map (Request.make q.dimension t) ++ answers t qs :=
  List.flatMap_cons

/-- The registry with the metrics of some more dimensions. -/
def Registry.registerDimensions (t : Translator) (r : Registry) (qs : List DimensionRequest) :
    Except Fault Registry :=
  qs.foldlM (fun r q => q.metrics t >>= r.registerAll) r

theorem Registry.registerDimensions_append (t : Translator) (r : Registry)
    (qs qs' : List DimensionRequest) :
    r.registerDimensions t (qs ++ qs') = r.registerDimensions t qs >>= (registerDimensions t · qs') :=
  List.foldlM_append

theorem Registry.registerDimensions_cons (t : Translator) (r : Registry) (q : DimensionRequest)
    (qs : List DimensionRequest) :
    r.registerDimensions t (q :: qs) = q.metrics t >>= r.registerAll >>= (registerDimensions t · qs) :=
  List.foldlM_cons

theorem Registry.registerDimensions_eq_ok_iff : r.registerDimensions t qs = .ok r' ↔
    ∃ ms, answers t qs = ms.map .ok ∧ r'.metrics = r.metrics ++ ms := by
  induction qs generalizing r with
  | nil =>
    constructor
    · intro h
      cases h
      exact ⟨[], rfl, (List.append_nil _).symm⟩
    · rintro ⟨ms, hms, hr'⟩
      obtain rfl : ms = [] := List.map_eq_nil_iff.1 hms.symm
      rw [List.append_nil] at hr'
      exact congrArg Except.ok (eq_of_metrics_eq hr'.symm)
  | cons q qs ih =>
    rw [registerDimensions_cons, bind_eq_ok]
    simp only [registerDimension_eq_ok_iff, ih]
    constructor
    · rintro ⟨r₁, ⟨ms₁, hms₁, hr₁⟩, ms₂, hms₂, hr'⟩
      refine ⟨ms₁ ++ ms₂, ?_, ?_⟩
      · rw [answers_cons, hms₁, hms₂, List.map_append]
      · rw [hr', hr₁, List.append_assoc]
    · rintro ⟨ms, hms, hr'⟩
      rw [answers_cons] at hms
      obtain ⟨ms₁, ms₂, rfl, hms₁, hms₂⟩ := List.append_eq_map_iff.1 hms
      rw [← List.append_assoc] at hr'
      have hnodup : ((r.metrics ++ ms₁).map Metric.name).Nodup := by
        have hall := r'.nodup
        rw [hr', List.map_append] at hall
        exact (List.nodup_append.1 hall).1
      exact ⟨⟨r.metrics ++ ms₁, hnodup⟩, ⟨ms₁, hms₁.symm, rfl⟩, ms₂, hms₂.symm, hr'⟩

theorem Registry.registerDimensions_eq_error_iff : r.registerDimensions t qs = .error e ↔
    ∃ before q after ms, qs = before ++ q :: after ∧ answers t before = ms.map .ok ∧
      ((r.metrics ++ ms).map Metric.name).Nodup ∧ q.FailsAfter t (r.metrics ++ ms) e := by
  constructor
  · intro h
    induction qs generalizing r with
    | nil => cases h
    | cons q qs ih =>
      rw [registerDimensions_cons] at h
      rcases bind_eq_error.1 h with h | ⟨r₁, hr₁, h⟩
      · refine ⟨[], q, qs, [], rfl, rfl, ?_, ?_⟩
        · rw [List.append_nil]
          exact r.nodup
        · rw [List.append_nil]
          exact registerDimension_eq_error_iff.1 h
      · obtain ⟨before, q', after, ms₂, rfl, hms₂, hnodup, hfails⟩ := ih h
        obtain ⟨ms₁, hms₁, hmetrics⟩ := registerDimension_eq_ok_iff.1 hr₁
        rw [hmetrics, List.append_assoc] at hnodup hfails
        refine ⟨q :: before, q', after, ms₁ ++ ms₂, rfl, ?_, hnodup, hfails⟩
        rw [answers_cons, hms₁, hms₂, List.map_append]
  · rintro ⟨before, q, after, ms, rfl, hms, hnodup, hfails⟩
    have hbefore : r.registerDimensions t before = .ok ⟨r.metrics ++ ms, hnodup⟩ :=
      registerDimensions_eq_ok_iff.2 ⟨ms, hms, rfl⟩
    rw [registerDimensions_append, hbefore]
    show registerDimensions t ⟨r.metrics ++ ms, hnodup⟩ (q :: after) = _
    rw [registerDimensions_cons, registerDimension_eq_error_iff.2 hfails]
    rfl

/-! ## Reports -/

/-- What each metric shares with its request is found in all metrics in the order of the requests. -/
theorem flatMap_requests_of_answers {β : Type} {f : Dimension → Request → β} {g : Metric → β}
    (hfg : ∀ d x m, Request.make d t x = .ok m → f d x = g m) (h : answers t qs = ms.map .ok) :
    (qs.flatMap fun q => q.requests.map (f q.dimension)) = ms.map g := by
  induction qs generalizing ms with
  | nil =>
    obtain rfl : ms = [] := List.map_eq_nil_iff.1 h.symm
    rfl
  | cons q qs ih =>
    rw [answers_cons] at h
    obtain ⟨ms₁, ms₂, rfl, hms₁, hms₂⟩ := List.append_eq_map_iff.1 h
    rw [List.flatMap_cons, List.map_append, ih hms₂.symm,
      map_eq_of_map_eq_ok (hfg q.dimension) hms₁.symm]

theorem ReportDefinition.outcome_build (d : ReportDefinition) (t : Translator) :
    (d.build t).outcome.1 = Registry.empty.registerDimensions t d.dimensions :=
  (d.yields_build t).outcome

theorem ReportDefinition.outcome_build_eq_ok_iff {d : ReportDefinition} :
    (d.build t).outcome.1 = .ok r ↔ answers t d.dimensions = r.metrics.map .ok := by
  rw [outcome_build, Registry.registerDimensions_eq_ok_iff]
  constructor
  · rintro ⟨ms, hms, hr⟩
    rw [hms, hr]
    rfl
  · intro h
    exact ⟨r.metrics, h, rfl⟩

/-- Every metric of a built report was asked for of one of its dimensions. -/
theorem ReportDefinition.exists_request_of_build {d : ReportDefinition} {m : Metric}
    (h : (d.build t).outcome.1 = .ok r) (hm : m ∈ r.metrics) :
    ∃ q ∈ d.dimensions, ∃ x ∈ q.requests, x.make q.dimension t = .ok m := by
  have hmem : .ok m ∈ answers t d.dimensions :=
    outcome_build_eq_ok_iff.1 h ▸ List.mem_map_of_mem hm
  obtain ⟨q, hq, hmem⟩ := List.mem_flatMap.1 hmem
  obtain ⟨x, hx, hmake⟩ := List.mem_map.1 hmem
  exact ⟨q, hq, x, hx, hmake⟩

/-- A report is built exactly if every request makes a metric and the names of all are different. It
holds these metrics in the order of the requests, each with the category of its own dimension, also
when they are read back by name. Otherwise the error is that of the first dimension which fails after
those before it, and stays the same whatever dimensions are added at the end. -/
theorem ReportDefinition.build_eq_iff_answers (d : ReportDefinition) (t : Translator) :
    ((∃ r, (d.build t).outcome.1 = .ok r) ↔
      ∃ ms : List Metric, answers t d.dimensions = ms.map .ok ∧ (ms.map Metric.name).Nodup) ∧
    (∀ r, (d.build t).outcome.1 = .ok r ↔
      answers t d.dimensions = r.metrics.map .ok ∧ r.names.map r.find? = r.metrics.map some ∧
        r.metrics.map Metric.category =
          d.dimensions.flatMap fun q => q.requests.map fun _ => q.dimension.category) ∧
    (∀ e, (d.build t).outcome.1 = .error e ↔
      ∃ before q after ms, d.dimensions = before ++ q :: after ∧ answers t before = ms.map .ok ∧
        (ms.map Metric.name).Nodup ∧ q.FailsAfter t ms e) ∧
    ∀ e later, (d.build t).outcome.1 = .error e →
      (build { d with dimensions := d.dimensions ++ later } t).outcome.1 = .error e := by
  simp only [outcome_build_eq_ok_iff]
  refine ⟨⟨?_, ?_⟩, fun r => ⟨fun h => ?_, And.left⟩, fun e => ?_, fun e later h => ?_⟩
  · rintro ⟨r, hr⟩
    exact ⟨r.metrics, hr, r.nodup⟩
  · rintro ⟨ms, hms, hnodup⟩
    exact ⟨⟨ms, hnodup⟩, hms⟩
  · have hcategory := flatMap_requests_of_answers (f := fun d _ => d.category)
      (fun _ _ _ hmake => (Request.category_of_make hmake).symm) h
    exact ⟨h, r.map_find?_names, hcategory.symm⟩
  · rw [outcome_build]
    exact Registry.registerDimensions_eq_error_iff
  · rw [outcome_build] at h ⊢
    rw [Registry.registerDimensions_append, h]
    rfl

end

end Yardstick
