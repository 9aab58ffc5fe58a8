import Yardstick.Proofs.Catalog.History
import Yardstick.Proofs.Outcome
import Yardstick.Proofs.Report.Requests

/-!
# Texts in place of the labels of a formula

A computed metric looks up texts in the contexts of its own formula, and for an average those for one of
something. What a translator holds in the contexts of the other formula is no matter to it
(`computedMetric_congr`). A text of the numerator in the formula's own context is the label as it stands, and
the template whose place it takes is not looked at (`computedMetric_of_label`); so for the documentation
(`computedMetric_of_documentation`).
-/

namespace Yardstick

/-- The formula that this one is not. -/
def Formula.other : Formula → Formula
  | average => rate
  | rate => average

/-- The contexts in which a computed metric of the formula looks nothing up. -/
def Formula.unread (f : Formula) : List String :=
  f.other.context :: f.other.documentationContext ::
    match f with
    | average => []
    | rate => [singularContext]

/-- Both translators answer alike, but perhaps not in these contexts. -/
def Translator.AgreesBut (contexts : List String) (t t' : Translator) : Prop :=
  ∀ key context, (∀ name ∈ contexts, context ≠ some name) → t.resolve key context = t'.resolve key context

section

variable {contexts : List String} {t t' : Translator} {f : Formula} {numerator denominator : String}

/-! ## Agreeing translators -/

/-- One more catalog that holds texts in these contexts only. -/
theorem Translator.agreesBut_add {c : Catalog} (hmessages : c.messages = .empty)
    (hcontexts : ∀ name, name ∉ contexts → c.contexts.get? name = none) (t : Translator) :
    t.AgreesBut contexts (t.add c) := by
  intro key context hcontext
  have hnone : c.get? key context = none := by
    cases context with
    | none => rw [Catalog.get?, hmessages, Table.get?_empty]
    | some name =>
      have hname : name ∉ contexts := fun h => hcontext name h rfl
      rw [Catalog.get?, hcontexts name hname]
      rfl
  have hsame (locale : String) : (t.add c).getIn? locale key context = t.getIn? locale key context := by
    rw [getIn?_add, hnone, Option.none_or, ite_self]
  rw [resolve, resolve, hsame, hsame]
  rfl

namespace Translator.AgreesBut

variable (h : t.AgreesBut contexts t')
include h

theorem resolve_none (key : String) : t.resolve key none = t'.resolve key none :=
  h key none fun _ _ => nofun

theorem resolve_some {name : String} (hname : name ∉ contexts) (key : String) :
    t.resolve key (some name) = t'.resolve key (some name) := by
  refine h key (some name) fun other hother heq => hname ?_
  rwa [Option.some.inj heq]

theorem textOr_eq (key default : String) : t.textOr key default = t'.textOr key default := by
  rw [textOr, textOr, h.resolve_none]

theorem metricLabel_eq (name : String) : metricLabel t name = metricLabel t' name := h.textOr_eq name name

theorem render_eq (l : LabelTemplate) (args : Template.Arguments) : l.render t args = l.render t' args := by
  rw [LabelTemplate.render, LabelTemplate.render, h.textOr_eq]

end Translator.AgreesBut

/-! ## Contexts that are not read -/

theorem Formula.context_not_mem_unread (f : Formula) : f.context ∉ f.unread := by
  cases f <;> decide

theorem Formula.documentationContext_not_mem_unread (f : Formula) : f.documentationContext ∉ f.unread := by
  cases f <;> decide

section

variable (h : t.AgreesBut f.unread t')
include h

theorem Formula.perLabel_congr (name : String) : f.perLabel t name = f.perLabel t' name := by
  cases f with
  | average =>
    have hsingular : singularContext ∉ average.unread := by decide
    rw [perLabel, perLabel, h.resolve_some hsingular, h.metricLabel_eq]
  | rate => exact h.metricLabel_eq name

theorem Formula.labelOf_congr (numerator denominator : String) :
    f.labelOf t numerator denominator = f.labelOf t' numerator denominator := by
  unfold labelOf
  rw [h.resolve_some f.context_not_mem_unread, h.metricLabel_eq, f.perLabel_congr h, h.render_eq]

theorem Formula.documentationOf_congr (numerator denominator : String) :
    f.documentationOf t numerator denominator = f.documentationOf t' numerator denominator := by
  unfold documentationOf
  rw [h.resolve_some f.documentationContext_not_mem_unread, h.metricLabel_eq, h.metricLabel_eq, h.render_eq]

theorem computedMetric_congr (numerator denominator category : String) :
    computedMetric numerator denominator f category t = computedMetric numerator denominator f category t' := by
  unfold computedMetric
  rw [f.labelOf_congr h, f.documentationOf_congr h]

end

/-! ## Texts that are held -/

theorem ComputedMetric.texts_of_make {name label documentation category : String}
    {dependencies : List String} {m : ComputedMetric}
    (h : make name label documentation category f dependencies = .ok m) :
    m.label = label ∧ m.documentation = documentation := by
  unfold make at h
  split_ifs at h
  split at h
  · split_ifs at h
    cases h
    exact ⟨rfl, rfl⟩
  · cases h

section

variable {text : String} (category : String)

/-- A text in the formula's own context takes the place of the label, and its template is out of the way. -/
theorem computedMetric_of_label (h : t.resolve numerator f.context = some text) :
    computedMetric numerator denominator f category t =
      f.documentationOf t numerator denominator >>= fun documentation =>
        liftError (ComputedMetric.make (computedName numerator denominator f) text documentation category f
          [numerator, denominator]) := by
  have hlabel : f.labelOf t numerator denominator = .ok text := by
    unfold Formula.labelOf
    rw [h]
  rw [computedMetric, hlabel]
  rfl

theorem computedMetric_of_documentation (h : t.resolve numerator f.documentationContext = some text) :
    computedMetric numerator denominator f category t =
      f.labelOf t numerator denominator >>= fun label =>
        liftError (ComputedMetric.make (computedName numerator denominator f) label text category f
          [numerator, denominator]) := by
  have hdocumentation : f.documentationOf t numerator denominator = .ok text := by
    unfold Formula.documentationOf
    rw [h]
  rw [computedMetric, hdocumentation]
  rfl

theorem label_of_computedMetric {m : ComputedMetric} (h : t.resolve numerator f.context = some text)
    (hm : computedMetric numerator denominator f category t = .ok m) : m.label = text := by
  rw [computedMetric_of_label category h] at hm
  obtain ⟨documentation, -, hm⟩ := bind_eq_ok.1 hm
  exact (ComputedMetric.texts_of_make (mapError_eq_ok.1 hm)).1

theorem documentation_of_computedMetric {m : ComputedMetric}
    (h : t.resolve numerator f.documentationContext = some text)
    (hm : computedMetric numerator denominator f category t = .ok m) : m.documentation = text := by
  rw [computedMetric_of_documentation category h] at hm
  obtain ⟨label, -, hm⟩ := bind_eq_ok.1 hm
  exact (ComputedMetric.texts_of_make (mapError_eq_ok.1 hm)).2

end

end

/-- What becomes of a computed metric does not depend on texts for the other formula, nor for a rate on those
for one of something. The texts that the translator holds for the numerator in the formula's own contexts are
label and documentation as they stand, whatever is in them, and the template that such a text replaces has no
part in what becomes of the metric, so it may be malformed. -/
theorem computedMetric_replaced (numerator denominator category : String) (f : Formula) :
    (∀ t t' : Translator, t.AgreesBut f.unread t' →
      computedMetric numerator denominator f category t =
        computedMetric numerator denominator f category t') ∧
    (∀ t m, computedMetric numerator denominator f category t = .ok m →
      (∀ text, t.resolve numerator f.context = some text → m.label = text) ∧
      ∀ text, t.resolve numerator f.documentationContext = some text → m.documentation = text) ∧
    (∀ (t : Translator) (text : String), t.resolve numerator f.context = some text →
      computedMetric numerator denominator f category t =
        f.documentationOf t numerator denominator >>= fun documentation =>
          liftError (ComputedMetric.make (computedName numerator denominator f) text documentation category f
            [numerator, denominator])) ∧
    ∀ (t : Translator) (text : String), t.resolve numerator f.documentationContext = some text →
      computedMetric numerator denominator f category t =
        f.labelOf t numerator denominator >>= fun label =>
          liftError (ComputedMetric.make (computedName numerator denominator f) label text category f
            [numerator, denominator]) :=
  ⟨fun _ _ h => computedMetric_congr h numerator denominator category,
    fun _ _ hm => ⟨fun _ h => label_of_computedMetric category h hm,
      fun _ h => documentation_of_computedMetric category h hm⟩,
    fun _ _ => computedMetric_of_label category, fun _ _ => computedMetric_of_documentation category⟩

/-- Malformed templates for rates, and an empty text and one with braces in their place. -/
def brokenCatalog : Catalog where
  locale := "en"
  messages := .ofList [("ComputedMetric_Rate", "\x7b"), ("ComputedMetric_RateDocumentation", "\x7b0.x\x7d")]
  contexts := .ofList
    [("rate", .ofList [("nb_x", "")]), ("rate_documentation", .ofList [("nb_x", "\x7b0\x7d %")])]

/-- Texts for averages. -/
def averageCatalog : Catalog where
  locale := "en"
  messages := .empty
  contexts := .ofList [("average", .ofList [("nb_x", "Mean")]), ("singular", .ofList [("nb_y", "y")])]

theorem computedMetric_replaced_brokenCatalog :
    let t := Translator.ofCatalogs [brokenCatalog] "en" "en"
    let t' := t.add averageCatalog
    t.AgreesBut Formula.rate.unread t' ∧
    t.resolve "nb_x" Formula.rate.context = some "" ∧
    t.resolve "nb_x" Formula.rate.documentationContext = some "\x7b0\x7d %" ∧
    t.resolve "nb_x" Formula.average.context = none ∧
    t'.resolve "nb_x" Formula.average.context = some "Mean" ∧
    Formula.rate.labelTemplate.render t ⟨["nb_x", "nb_y"], []⟩ =
      .error (.error (.badTemplate "ComputedMetric_Rate" "\x7b" .loneOpening)) ∧
    ∃ m, computedMetric "nb_x" "nb_y" .rate "users" t = .ok m ∧
      computedMetric "nb_x" "nb_y" .rate "users" t' = .ok m ∧ m.label = "" ∧
      m.documentation = "\x7b0\x7d %" := by
  intro t t'
  obtain ⟨hsame, htexts, hlabelled, -⟩ := computedMetric_replaced "nb_x" "nb_y" "users" .rate
  have hagrees : t.AgreesBut Formula.rate.unread t' := by
    refine Translator.agreesBut_add rfl (fun name hname => ?_) t
    have haverage : name ≠ "average" := fun h => hname (by rw [h]; decide)
    have hsingular : name ≠ "singular" := fun h => hname (by rw [h]; decide)
    simp [averageCatalog, Table.ofList, Table.get?_put, haverage, hsingular]
  have hlabel : t.resolve "nb_x" Formula.rate.context = some "" := rfl
  have hdocumentation : t.resolve "nb_x" Formula.rate.documentationContext = some "\x7b0\x7d %" := rfl
  have hmade : ∃ m, computedMetric "nb_x" "nb_y" .rate "users" t = .ok m := by
    rw [hlabelled t "" hlabel]
    exact ⟨_, rfl⟩
  obtain ⟨m, hm⟩ := hmade
  refine ⟨hagrees, hlabel, hdocumentation, rfl, rfl, by decide +kernel, m, hm, ?_, ?_, ?_⟩
  · rw [← hsame t t' hagrees, hm]
  · exact (htexts t m hm).1 "" hlabel
  · exact (htexts t m hm).2 _ hdocumentation

end Yardstick
