import Yardstick.Proofs.Template.Plain

/-!
# The English texts of metrics

A translator without templates leaves the English defaults. They show the labels of a dimension or of two
metrics once each, as they stand, whatever braces and percent signs the labels hold: texts of base metrics
end with the label (`Dimension.baseMetric_of_lacksTemplate`), those of computed metrics hold it between words
(`computedMetric_of_lacksTemplate`). Both are cases of filling a plain template (`LabelTemplate.render_plain`).
-/

namespace Yardstick

open Template

variable {t : Translator} {l : LabelTemplate} {args : Arguments} {parts : List Part} {text : String}
  {a : Aggregation} {f : Formula}

/-- The translator has no template under this key, or an empty one. -/
def Translator.LacksTemplate (t : Translator) (l : LabelTemplate) : Prop :=
  nonempty? (t.resolve l.key none) = none

theorem Translator.LacksTemplate.textOr_eq (h : t.LacksTemplate l) :
    t.textOr l.key l.default = l.default := by
  unfold LacksTemplate nonempty? at h
  unfold textOr
  cases hresolve : t.resolve l.key none with
  | none => rfl
  | some text =>
    rw [hresolve] at h
    have hempty : text = "" := by simpa using h
    exact if_pos hempty

theorem LabelTemplate.render_of_fill (h : fill args (t.textOr l.key l.default) = .ok text) :
    l.render t args = .ok text := by
  unfold render
  dsimp only
  rw [h]

/-- The default of a template that is plain. -/
theorem LabelTemplate.render_default (h : t.LacksTemplate l) (hdefault : l.default.toList = written parts)
    (hparts : ∀ p ∈ parts, p.IsPlain) (hunmixed : Unmixed parts)
    (hshown : shown args 0 parts = some text.toList) : l.render t args = .ok text := by
  refine render_of_fill ?_
  rw [h.textOr_eq, fill_of_unmixed hparts hdefault hshown hunmixed, String.ofList_toList]

/-! ## Base metrics -/

namespace Aggregation

/-- What the English label of a base metric says before the label of its dimension. -/
def labelFront : Aggregation → String
  | count => ""
  | uniqueCount => "Unique "
  | sum => "Total "
  | min => "Min "
  | max => "Max "
  | countWithValue => "Entries with "

def documentationFront : Aggregation → String
  | count => "The number of "
  | uniqueCount => "The unique number of "
  | sum => "The total number (sum) of "
  | min => "The minimum value for "
  | max => "The maximum value for "
  | countWithValue => "The number of entries that have a value set for "

/-- The label of a dimension that is shown: that for many, or that for one where entries are counted. -/
def shownLabel (a : Aggregation) (d : Dimension) (t : Translator) : String :=
  match a with
  | countWithValue => d.label t
  | _ => d.pluralLabel t

/-- The name by which the templates ask for that label. -/
def labelName : Aggregation → String
  | countWithValue => "label"
  | _ => "plural"

/-- The default is some words with a label after them. -/
theorem toList_labelTemplate (a : Aggregation) : a.labelTemplate.default.toList =
    written [.text a.labelFront.toList, .named a.labelName.toList] := by
  cases a <;> decide

theorem toList_documentationTemplate (a : Aggregation) : a.documentationTemplate.default.toList =
    written [.text a.documentationFront.toList, .named a.labelName.toList] := by
  cases a <;> decide

end Aggregation

theorem LabelTemplate.render_front {front : String} {d : Dimension} (h : t.LacksTemplate l)
    (hdefault : l.default.toList = written [.text front.toList, .named a.labelName.toList]) :
    l.render t ⟨[], [("plural", d.pluralLabel t), ("label", d.label t)]⟩ =
      .ok (front ++ a.shownLabel d t) := by
  have hname : (Part.named a.labelName.toList).IsPlain := by
    cases a <;> decide
  have hlookup : [("plural", d.pluralLabel t), ("label", d.label t)].lookup a.labelName =
      some (a.shownLabel d t) := by
    cases a <;> rfl
  rw [← String.ofList_toList (s := a.labelName)] at hlookup
  refine render_default h hdefault (by simpa using hname) (.inl (by simp)) ?_
  rw [shown_text, shown_named hlookup, String.toList_append]
  exact congrArg some (congrArg (front.toList ++ ·) (List.append_nil _))

theorem Dimension.baseMetric_of_lacksTemplate (d : Dimension) (hlabel : t.LacksTemplate a.labelTemplate)
    (hdocumentation : t.LacksTemplate a.documentationTemplate) :
    d.baseMetric t a = (do
      let name ← liftError (baseName a d.module d.id)
      let column ← liftError d.columnExpression
      liftError (BaseMetric.make name (a.labelFront ++ a.shownLabel d t)
        (a.documentationFront ++ a.shownLabel d t) d.category (a.expression column) a)) := by
  unfold Dimension.baseMetric
  dsimp only
  rw [LabelTemplate.render_front hlabel a.toList_labelTemplate,
    LabelTemplate.render_front hdocumentation a.toList_documentationTemplate]
  rfl

/-! ## Computed metrics -/

namespace Formula

/-- The English label of a computed metric, of the labels of its dependencies. -/
def englishLabel (f : Formula) (numerator denominator : String) : String :=
  match f with
  | average => "Avg. " ++ numerator ++ " per " ++ denominator
  | rate => numerator ++ " Rate"

def englishDocumentation (f : Formula) (numerator denominator : String) : String :=
  match f with
  | average => "Average value of \"" ++ numerator ++ "\" per \"" ++ denominator ++ "\"."
  | rate => "The ratio of \"" ++ numerator ++ "\" out of all \"" ++ denominator ++ "\"."

/-- Words before, between and after the labels of both dependencies. -/
def bothLabels (before between after : String) : List Part :=
  [.text before.toList, .nth 0 ['0'], .text between.toList, .nth 1 ['1'], .text after.toList]

section

variable {before between after : String} (numerator denominator : String)

theorem render_bothLabels (h : t.LacksTemplate l)
    (hdefault : l.default.toList = written (bothLabels before between after)) :
    l.render t ⟨[numerator, denominator], []⟩ =
      .ok (before ++ numerator ++ between ++ denominator ++ after) := by
  have hdigits : (Part.nth 0 ['0']).IsPlain ∧ (Part.nth 1 ['1']).IsPlain := ⟨rfl, rfl⟩
  refine LabelTemplate.render_default h hdefault (by simp [bothLabels, hdigits])
    (.inl (by simp [bothLabels])) ?_
  unfold bothLabels
  rw [shown_text, shown_nth rfl, shown_text, shown_nth rfl, shown_text, shown_nil]
  simp only [Option.map_some, String.toList_append, List.append_assoc, List.append_nil]

theorem render_labelTemplate (h : t.LacksTemplate f.labelTemplate) :
    f.labelTemplate.render t ⟨[numerator, denominator], []⟩ =
      .ok (f.englishLabel numerator denominator) := by
  cases f with
  | average =>
    have hdefault : average.labelTemplate.default.toList = written (bothLabels "Avg. " " per " "") := by
      decide
    rw [render_bothLabels numerator denominator h hdefault, String.append_empty]
    rfl
  | rate =>
    have hdefault : rate.labelTemplate.default.toList =
        written [.nth 0 ['0'], .text " Rate".toList] := by
      decide
    have hdigits : (Part.nth 0 ['0']).IsPlain := rfl
    refine LabelTemplate.render_default h hdefault (by simp [hdigits]) (.inl (by simp)) ?_
    rw [shown_nth rfl, shown_text, shown_nil, englishLabel, String.toList_append]
    exact congrArg (fun s => some (numerator.toList ++ s)) (List.append_nil _)

theorem render_documentationTemplate (h : t.LacksTemplate f.documentationTemplate) :
    f.documentationTemplate.render t ⟨[numerator, denominator], []⟩ =
      .ok (f.englishDocumentation numerator denominator) := by
  cases f with
  | average =>
    exact render_bothLabels numerator denominator h (by rfl)
  | rate =>
    exact render_bothLabels numerator denominator h (by rfl)

theorem labelOf_of_lacksTemplate (h : t.LacksTemplate f.labelTemplate) :
    f.labelOf t numerator denominator = .ok ((t.resolve numerator f.context).getD
      (f.englishLabel (metricLabel t numerator) (f.perLabel t denominator))) := by
  unfold labelOf
  cases t.resolve numerator f.context with
  | none => exact render_labelTemplate _ _ h
  | some text => rfl

theorem documentationOf_of_lacksTemplate (h : t.LacksTemplate f.documentationTemplate) :
    f.documentationOf t numerator denominator = .ok ((t.resolve numerator f.documentationContext).getD
      (f.englishDocumentation (metricLabel t numerator) (metricLabel t denominator))) := by
  unfold documentationOf
  cases t.resolve numerator f.documentationContext with
  | none => exact render_documentationTemplate _ _ h
  | some text => rfl

end

end Formula

theorem computedMetric_of_lacksTemplate (numerator denominator category : String)
    (hlabel : t.LacksTemplate f.labelTemplate) (hdocumentation : t.LacksTemplate f.documentationTemplate) :
    computedMetric numerator denominator f category t =
      liftError (ComputedMetric.make (computedName numerator denominator f)
        ((t.resolve numerator f.context).getD
          (f.englishLabel (metricLabel t numerator) (f.perLabel t denominator)))
        ((t.resolve numerator f.documentationContext).getD
          (f.englishDocumentation (metricLabel t numerator) (metricLabel t denominator)))
        category f [numerator, denominator]) := by
  unfold computedMetric
  rw [Formula.labelOf_of_lacksTemplate numerator denominator hlabel,
    Formula.documentationOf_of_lacksTemplate numerator denominator hdocumentation]
  rfl

/-! ## Labels as they stand -/

/-- A plain template whose arguments are there shows its text and its arguments, each in its place and as it
stands, if it is not mixed, and is refused with its key if it is. So without templates the texts of a base
metric show a label of its dimension after the English words, and those of a computed metric the labels of
both dependencies between them, wherever no text takes their place; all else is as it would be without texts. -/
theorem LabelTemplate.render_plain :
    (∀ (l : LabelTemplate) (t : Translator) (args : Arguments) (parts : List Part) (out : List Char),
      (∀ p ∈ parts, p.IsPlain) → (t.textOr l.key l.default).toList = written parts →
      shown args 0 parts = some out →
      (Unmixed parts → l.render t args = .ok (String.ofList out)) ∧
      (¬ Unmixed parts → ∃ e, (e = .manualToAutomatic ∨ e = .automaticToManual) ∧
        l.render t args = .error (.error (.badTemplate l.key (t.textOr l.key l.default) e)))) ∧
    (∀ (d : Dimension) (t : Translator) (a : Aggregation),
      t.LacksTemplate a.labelTemplate → t.LacksTemplate a.documentationTemplate →
      d.baseMetric t a = (do
        let name ← liftError (baseName a d.module d.id)
        let column ← liftError d.columnExpression
        liftError (BaseMetric.make name (a.labelFront ++ a.shownLabel d t)
          (a.documentationFront ++ a.shownLabel d t) d.category (a.expression column) a))) ∧
    ∀ (numerator denominator category : String) (f : Formula) (t : Translator),
      t.LacksTemplate f.labelTemplate → t.LacksTemplate f.documentationTemplate →
      computedMetric numerator denominator f category t =
        liftError (ComputedMetric.make (computedName numerator denominator f)
          ((t.resolve numerator f.context).getD
            (f.englishLabel (metricLabel t numerator) (f.perLabel t denominator)))
          ((t.resolve numerator f.documentationContext).getD
            (f.englishDocumentation (metricLabel t numerator) (metricLabel t denominator)))
          category f [numerator, denominator]) := by
  refine ⟨fun l t args parts out hparts htemplate hshown => ⟨fun h => ?_, fun h => ?_⟩,
    fun d t a => d.baseMetric_of_lacksTemplate,
    fun numerator denominator category f t => computedMetric_of_lacksTemplate numerator denominator category⟩
  · exact render_of_fill (fill_of_unmixed hparts htemplate hshown h)
  · obtain ⟨e, he, hfill⟩ := fill_of_mixed hparts htemplate hshown h
    refine ⟨e, he, ?_⟩
    unfold render
    dsimp only
    rw [hfill]

/-- A dimension whose labels have braces and a percent sign. -/
def bracedDimension : Dimension where
  id := "share"
  module := "Visits"
  category := "General"
  table := none
  column := none
  sqlSegment := some "share"
  labelKey := "\x7bshare\x7d"
  pluralLabelKey := some "100% \x7blabel\x7d"

theorem LabelTemplate.render_plain_braces :
    let t := Translator.ofCatalogs [] "en" "en"
    let l : LabelTemplate := ⟨"Metric_Count", "\x7b\x7b\x7bplural\x7d\x7d\x7d of \x7b0\x7d"⟩
    let args : Arguments := ⟨["50%"], [("plural", "\x7b0\x7d")]⟩
    let parts : List Part :=
      [.text "\x7b".toList, .named "plural".toList, .text "\x7d of ".toList, .nth 0 "0".toList]
    ((∀ p ∈ parts, p.IsPlain) ∧ (t.textOr l.key l.default).toList = written parts ∧
      shown args 0 parts = some "\x7b\x7b0\x7d\x7d of 50%".toList ∧ Unmixed parts) ∧
    (t.LacksTemplate Aggregation.count.labelTemplate ∧
      t.LacksTemplate Aggregation.count.documentationTemplate) ∧
    (t.LacksTemplate Formula.rate.labelTemplate ∧ t.LacksTemplate Formula.rate.documentationTemplate) ∧
    l.render t args = .ok "\x7b\x7b0\x7d\x7d of 50%" ∧
    (bracedDimension.baseMetric t .count).map (fun m => (m.label, m.documentation)) =
      .ok ("100% \x7blabel\x7d", "The number of 100% \x7blabel\x7d") ∧
    (computedMetric "\x7b1\x7d" "nb_visits" .rate "General" t).map (fun m => (m.label, m.documentation)) =
      .ok ("\x7b1\x7d Rate", "The ratio of \"\x7b1\x7d\" out of all \"nb_visits\".") := by
  intro t l args parts
  obtain ⟨hfill, hbase, hcomputed⟩ := LabelTemplate.render_plain
  have hparts : ∀ p ∈ parts, p.IsPlain := by decide
  have htemplate : (t.textOr l.key l.default).toList = written parts := by decide
  have hshown : shown args 0 parts = some "\x7b\x7b0\x7d\x7d of 50%".toList := by decide
  have hunmixed : Unmixed parts := by decide
  have hcount : t.LacksTemplate Aggregation.count.labelTemplate ∧
      t.LacksTemplate Aggregation.count.documentationTemplate := ⟨rfl, rfl⟩
  have hrate : t.LacksTemplate Formula.rate.labelTemplate ∧
      t.LacksTemplate Formula.rate.documentationTemplate := ⟨rfl, rfl⟩
  refine ⟨⟨hparts, htemplate, hshown, hunmixed⟩, hcount, hrate, ?_, ?_, ?_⟩
  · rw [(hfill l t args parts _ hparts htemplate hshown).1 hunmixed, String.ofList_toList]
  · rw [hbase bracedDimension t .count hcount.1 hcount.2]
    decide +kernel
  · rw [hcomputed "\x7b1\x7d" "nb_visits" "General" .rate t hrate.1 hrate.2]
    decide +kernel

/-- A field that leaves its index to be counted beside one that gives it, both with their arguments. -/
theorem LabelTemplate.render_mixedFields :
    let t := Translator.ofCatalogs [] "en" "en"
    let l : LabelTemplate := ⟨"Metric_Count", "\x7b0\x7d / \x7b\x7d"⟩
    let args : Arguments := ⟨["Visits", "Visits"], []⟩
    let parts : List Part := [.nth 0 "0".toList, .text " / ".toList, .next]
    (∀ p ∈ parts, p.IsPlain) ∧ (t.textOr l.key l.default).toList = written parts ∧
      shown args 0 parts = some "Visits / Visits".toList ∧
      l.render t args = .error (.error (.badTemplate l.key l.default .manualToAutomatic)) ∧
      l.render t args ≠ .ok "Visits / Visits" := by
  intro t l args parts
  have hrefused : l.render t args = .error (.error (.badTemplate l.key l.default .manualToAutomatic)) := by
    decide +kernel
  refine ⟨by decide, by decide, by decide, hrefused, ?_⟩
  rw [hrefused]
  nofun

end Yardstick
