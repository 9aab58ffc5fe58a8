import Yardstick.Proofs.Report.Build

/-!
# Names that are taken

No request is refused for its name as long as it is built on its own (`Request.make_allows`), so a
report that fails for a name that is taken is rejected for two of its requests: each makes a metric of
that name, and the names of all metrics before the second are different
(`ReportDefinition.exists_rejectedFor`).
-/

namespace Yardstick

/-! ## Failures that are not about a name -/

/-- If the computation fails, then not for a name that is taken. -/
def Allows {α : Type} (x : Except Fault α) : Prop := ∀ name, x ≠ .error (.error (.duplicate name))

section

variable {α β : Type} {x : Except Fault α}

theorem Allows.bind {f : α → Except Fault β} (hx : Allows x) (hf : ∀ a, Allows (f a)) :
    Allows (x >>= f) := by
  intro name h
  rcases bind_eq_error.1 h with h | ⟨a, -, h⟩
  · exact hx name h
  · exact hf a name h

theorem Allows.map (hx : Allows x) (f : α → β) : Allows (x.map f) := by
  intro name h
  cases x with
  | error e => exact hx name (by cases h; rfl)
  | ok a => cases h

theorem allows_liftError {x : Except Error α} (hx : ∀ name, x ≠ .error (.duplicate name)) :
    Allows (liftError x) := by
  intro name h
  cases x with
  | error e => exact hx name (by cases h; rfl)
  | ok a => cases h

end

section

variable {d : Dimension} {t : Translator}

theorem allows_baseName (a : Aggregation) (module id : String) :
    Allows (liftError (baseName a module id)) := by
  refine allows_liftError fun name h => ?_
  unfold baseName slug at h
  simp only at h
  split at h <;> cases h

theorem allows_columnExpression (d : Dimension) : Allows (liftError d.columnExpression) := by
  refine allows_liftError fun name h => ?_
  unfold Dimension.columnExpression at h
  cases hcolumn : d.column? <;> rw [hcolumn] at h <;> cases h

theorem allows_substitute (template column : String) : Allows (liftError (substitute template column)) := by
  refine allows_liftError fun name h => ?_
  unfold substitute at h
  simp only at h
  split at h <;> cases h

theorem LabelTemplate.allows_render (l : LabelTemplate) (t : Translator) (args : Template.Arguments) :
    Allows (l.render t args) := by
  intro name h
  unfold render at h
  simp only at h
  split at h <;> cases h

theorem BaseMetric.allows_make (name label documentation category expression : String)
    (aggregation : Option Aggregation) :
    Allows (liftError (make name label documentation category expression aggregation)) := by
  refine allows_liftError fun name h => ?_
  unfold make at h
  split_ifs at h <;> cases h

theorem ComputedMetric.allows_make (name label documentation category : String) (formula : Formula)
    (dependencies : List String) :
    Allows (liftError (make name label documentation category formula dependencies)) := by
  refine allows_liftError fun name h => ?_
  unfold make at h
  split_ifs at h
  · cases h
  · cases h
  · split at h
    · split_ifs at h <;> cases h
    · cases h

theorem Formula.allows_labelOf (f : Formula) (t : Translator) (numerator denominator : String) :
    Allows (f.labelOf t numerator denominator) := by
  unfold labelOf
  split
  · exact nofun
  · exact f.labelTemplate.allows_render t _

theorem Formula.allows_documentationOf (f : Formula) (t : Translator) (numerator denominator : String) :
    Allows (f.documentationOf t numerator denominator) := by
  unfold documentationOf
  split
  · exact nofun
  · exact f.documentationTemplate.allows_render t _

theorem Request.make_allows (x : Request) (d : Dimension) (t : Translator) : Allows (x.make d t) := by
  cases x with
  | aggregation a =>
    refine Allows.map ?_ _
    unfold Dimension.baseMetric
    exact (allows_baseName a d.module d.id).bind fun _ =>
      (a.labelTemplate.allows_render t _).bind fun _ =>
      (a.documentationTemplate.allows_render t _).bind fun _ =>
      (allows_columnExpression d).bind fun _ => BaseMetric.allows_make _ _ _ _ _ _
  | custom c =>
    refine Allows.map ?_ _
    unfold Dimension.customMetric
    exact (allows_columnExpression d).bind fun _ =>
      (allows_substitute c.template _).bind fun _ => BaseMetric.allows_make _ _ _ _ _ _
  | computed c =>
    refine Allows.map ?_ _
    unfold computedMetric
    exact (c.formula.allows_labelOf t _ _).bind fun _ =>
      (c.formula.allows_documentationOf t _ _).bind fun _ => ComputedMetric.allows_make _ _ _ _ _ _

end

/-! ## Rejected reports -/

/-- All requests of some dimensions, in order, each with its dimension. -/
def asked (qs : List DimensionRequest) : List (Dimension × Request) :=
  qs.flatMap fun q => q.requests.map (q.dimension, ·)

/-- The metric of a request of its own dimension. -/
def makeAsked (t : Translator) (x : Dimension × Request) : Except Fault Metric := x.2.make x.1 t

/-- The request `y` is the first to make a metric whose name is taken, by the metric that the request
`x` before it has made. -/
def ReportDefinition.RejectedFor (d : ReportDefinition) (t : Translator) (x y : Dimension × Request)
    (name : String) : Prop :=
  ∃ (before between after : List (Dimension × Request)) (ms : List Metric) (m n : Metric),
    asked d.dimensions = before ++ x :: between ++ y :: after ∧
    (before ++ x :: between).map (makeAsked t) = ms.map .ok ∧ (ms.map Metric.name).Nodup ∧
    makeAsked t x = .ok m ∧ m.name = name ∧ makeAsked t y = .ok n ∧ n.name = name

section

variable {d : ReportDefinition} {t : Translator} {x y : Dimension × Request} {name : String}

theorem ReportDefinition.RejectedFor.exists_name_eq (h : d.RejectedFor t x y name) :
    ∃ m n, makeAsked t x = .ok m ∧ makeAsked t y = .ok n ∧ m.name = n.name := by
  obtain ⟨-, -, -, -, m, n, -, -, -, hm, hmname, hn, hnname⟩ := h
  exact ⟨m, n, hm, hn, hmname.trans hnname.symm⟩

theorem answers_eq_map_asked (t : Translator) (qs : List DimensionRequest) :
    answers t qs = (asked qs).map (makeAsked t) := by
  unfold answers asked
  rw [List.map_flatMap]
  simp only [List.map_map]
  rfl

/-- A report that fails for a name that is taken is rejected for two requests. -/
theorem ReportDefinition.exists_rejectedFor
    (h : (d.build t).outcome.1 = .error (.error (.duplicate name))) :
    ∃ x y, d.RejectedFor t x y name := by
  rw [outcome_build, Registry.registerDimensions_eq_error_iff] at h
  obtain ⟨earlier, q, later, taken, hdimensions, htaken, -, hfails⟩ := h
  rw [answers_eq_map_asked] at htaken
  generalize he : Fault.error (.duplicate name) = e at hfails
  cases hfails with
  | @unbuilt _ x _ _ _ _ _ hx => exact absurd (he ▸ hx) (x.make_allows q.dimension t name)
  | @collides before m after hbuilt hnodup hmem =>
    obtain rfl : name = m.name := by cases he; rfl
    obtain ⟨done, todo, hrequests, hdone, htodo⟩ := List.map_eq_append_iff.1
      (hbuilt.trans (List.map_append ..))
    obtain ⟨y, rest, rfl, hy, -⟩ := List.map_eq_cons_iff.1 htodo
    obtain ⟨n, hn, hname⟩ := List.mem_map.1 hmem
    obtain ⟨ms, ns, hsplit⟩ := List.append_of_mem hn
    have hmade : (asked earlier ++ done.map (q.dimension, ·)).map (makeAsked t) =
        (ms ++ n :: ns).map .ok := by
      rw [← hsplit, List.map_append, List.map_append, htaken, List.map_map, ← hdone]
      rfl
    obtain ⟨xs, ys, hasked, -, hys⟩ := List.map_eq_append_iff.1 (hmade.trans (List.map_append ..))
    obtain ⟨x, between, rfl, hx, -⟩ := List.map_eq_cons_iff.1 hys
    refine ⟨x, (q.dimension, y), xs, between, rest.map (q.dimension, ·) ++ asked later, ms ++ n :: ns,
      n, m, ?_, ?_, ?_, hx, hname, hy, rfl⟩
    · rw [← hasked, hdimensions]
      unfold asked
      rw [List.flatMap_append, List.flatMap_cons, hrequests]
      simp
    · rw [← hasked, hmade]
    · rw [← hsplit]
      exact hnodup

end

end Yardstick
