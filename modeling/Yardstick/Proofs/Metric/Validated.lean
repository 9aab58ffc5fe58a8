import Yardstick.Metric.Request
import Yardstick.Proofs.Metric.DimensionSlug
import Yardstick.Proofs.Metric.English
import Yardstick.Proofs.Schema.Documents

/-!
# Base metrics of validated dimensions

A dimension that was read from a document has a column, and a translator whose templates keep to the labels
of a dimension fills them all. So a base metric fails for two reasons only, a dimension without a slug and one
without a category, in this order (`Dimension.baseMetric_of_validated`).
-/

namespace Yardstick

open Template

/-! ## Templates that keep to labels -/

/-- The part is text, or it asks for one of the labels of a dimension and for nothing else. -/
def Template.Part.AsksForLabel : Part → Prop
  | text _ => True
  | named name => name = "plural".toList ∨ name = "label".toList
  | next | nth _ _ => False

/-- The template is well-formed, and all its fields ask for the labels of a dimension. -/
def Template.ShowsLabels (template : String) : Prop :=
  ∃ parts : List Part, (∀ p ∈ parts, p.AsksForLabel) ∧ template.toList = written parts

/-- The arguments of the templates of base metrics. -/
def Template.Arguments.ofLabels (plural label : String) : Arguments :=
  ⟨[], [("plural", plural), ("label", label)]⟩

/-- If the translator holds a text for the template, it shows labels. -/
def Translator.KeepsToLabels (t : Translator) (l : LabelTemplate) : Prop :=
  ∀ text, t.resolve l.key none = some text → ShowsLabels text

section

variable {p : Part} {parts : List Part} {template : String} {t : Translator} {l : LabelTemplate}
  {a : Aggregation} {d : Dimension}

theorem Template.Part.AsksForLabel.isPlain (h : p.AsksForLabel) : p.IsPlain := by
  cases p with
  | text s => exact isPlain_text s
  | named name => rcases h with rfl | rfl <;> decide
  | next | nth => exact h.elim

theorem Template.Part.AsksForLabel.exists_value? (h : p.AsksForLabel) (plural label : String) (seen : Nat) :
    ∃ value, p.value? (.ofLabels plural label) seen = some value := by
  cases p with
  | text s => exact ⟨s, rfl⟩
  | named name =>
    rcases h with rfl | rfl
    · exact ⟨plural.toList, rfl⟩
    · exact ⟨label.toList, rfl⟩
  | next | nth => exact h.elim

theorem Template.exists_shown (h : ∀ p ∈ parts, p.AsksForLabel) (plural label : String) (seen : Nat) :
    ∃ out, shown (.ofLabels plural label) seen parts = some out := by
  induction parts generalizing seen with
  | nil => exact ⟨[], rfl⟩
  | cons p parts ih =>
    obtain ⟨hp, hparts⟩ := List.forall_mem_cons.1 h
    obtain ⟨value, hvalue⟩ := hp.exists_value? plural label seen
    obtain ⟨out, hout⟩ := ih hparts (p.seenAfter seen)
    refine ⟨value ++ out, ?_⟩
    rw [shown, hvalue, hout]
    rfl

theorem Template.ShowsLabels.exists_fill (h : ShowsLabels template) (plural label : String) :
    ∃ text, fill (.ofLabels plural label) template = .ok text := by
  obtain ⟨parts, hparts, htemplate⟩ := h
  obtain ⟨out, hout⟩ := exists_shown hparts plural label 0
  have hcounted : .next ∉ parts := fun hnext => hparts .next hnext
  exact ⟨_, fill_of_unmixed (fun p hp => (hparts p hp).isPlain) htemplate hout (.inl hcounted)⟩

/-- The text of the translator takes the place of the default, or leaves it. -/
theorem Translator.KeepsToLabels.exists_render (h : t.KeepsToLabels l) (hdefault : ShowsLabels l.default)
    (plural label : String) : ∃ text, l.render t (.ofLabels plural label) = .ok text := by
  have hshows : ShowsLabels (t.textOr l.key l.default) := by
    unfold textOr
    cases hresolve : t.resolve l.key none with
    | none => exact hdefault
    | some text =>
      dsimp only
      split_ifs
      · exact hdefault
      · exact h text hresolve
  obtain ⟨text, htext⟩ := hshows.exists_fill plural label
  exact ⟨text, LabelTemplate.render_of_fill htext⟩

theorem Aggregation.asksForLabel_labelName (a : Aggregation) (front : String) :
    ∀ p ∈ [.text front.toList, .named a.labelName.toList], Part.AsksForLabel p := by
  have hname : (Part.named a.labelName.toList).AsksForLabel := by
    cases a
    case countWithValue => exact .inr rfl
    all_goals exact .inl rfl
  simpa using ⟨trivial, hname⟩

theorem Aggregation.showsLabels_labelTemplate (a : Aggregation) : ShowsLabels a.labelTemplate.default :=
  ⟨_, a.asksForLabel_labelName a.labelFront, a.toList_labelTemplate⟩

theorem Aggregation.showsLabels_documentationTemplate (a : Aggregation) :
    ShowsLabels a.documentationTemplate.default :=
  ⟨_, a.asksForLabel_labelName a.documentationFront, a.toList_documentationTemplate⟩

/-! ## Validated dimensions -/

theorem Dimension.exists_columnExpression {ms : List (String × Json)} (h : ofMembers ms = .ok d) :
    ∃ column, d.columnExpression = .ok column := by
  obtain ⟨column, hcolumn⟩ := Option.isSome_iff_exists.1 (ofMembers_eq_ok_iff.1 h).2
  exact ⟨column, by rw [columnExpression, hcolumn]; rfl⟩

/-- With a column and templates that can be filled, the name and the category decide. -/
theorem Dimension.baseMetric_eq_of_rendered {label documentation column : String}
    (hlabel : a.labelTemplate.render t (.ofLabels (d.pluralLabel t) (d.label t)) = .ok label)
    (hdocumentation :
      a.documentationTemplate.render t (.ofLabels (d.pluralLabel t) (d.label t)) = .ok documentation)
    (hcolumn : d.columnExpression = .ok column) :
    d.baseMetric t a = liftError (baseName a d.module d.id) >>= fun name =>
      liftError (BaseMetric.make name label documentation d.category (a.expression column) a) := by
  unfold Dimension.baseMetric
  dsimp only
  cases baseName a d.module d.id with
  | error e => rfl
  | ok name =>
    show (a.labelTemplate.render t (.ofLabels (d.pluralLabel t) (d.label t)) >>= _) = _
    rw [hlabel]
    show (a.documentationTemplate.render t (.ofLabels (d.pluralLabel t) (d.label t)) >>= _) = _
    rw [hdocumentation, hcolumn]
    rfl

section

variable {name category : String} (hname : name ≠ "") (label documentation expression : String)
  (aggregation : Option Aggregation)
include hname

theorem BaseMetric.make_of_no_category (hcategory : category = "") :
    make name label documentation category expression aggregation = .error (.noCategory name) := by
  unfold make
  rw [dif_neg hname, dif_pos hcategory]

theorem BaseMetric.exists_make (hcategory : category ≠ "") :
    ∃ m, make name label documentation category expression aggregation = .ok m := by
  refine ⟨⟨name, label, documentation, category, expression, aggregation, hname, hcategory⟩, ?_⟩
  unfold make
  rw [dif_neg hname, dif_neg hcategory]

end

/-- A kind that is given by its word is found in every table of aggregations. -/
theorem Aggregation.find_text (a : Aggregation) (missing : String → Error) :
    find (.str a.text) missing = .ok a := by
  unfold find
  dsimp only
  rw [ofJson?, ofText?_text]
  rfl

end

section

variable {ms : List (String × Json)} {d : Dimension} {t : Translator} {a : Aggregation}
  (hd : Dimension.ofMembers ms = .ok d) (hlabel : t.KeepsToLabels a.labelTemplate)
  (hdocumentation : t.KeepsToLabels a.documentationTemplate)
include hd hlabel hdocumentation

/-- The ways in which a base metric may come out, each with what brings it about. -/
theorem Dimension.baseMetric_cases :
    (slug d.module d.id = .error (.noSlug d.module d.id) ∧
      d.baseMetric t a = .error (.error (.noSlug d.module d.id))) ∨
    ∃ s, slug d.module d.id = .ok s ∧
      (d.category = "" ∧ d.baseMetric t a = .error (.error (.noCategory (a.namePrefix ++ s))) ∨
        d.category ≠ "" ∧ ∃ m, d.baseMetric t a = .ok m) := by
  obtain ⟨column, hcolumn⟩ := Dimension.exists_columnExpression hd
  obtain ⟨label, hrender⟩ := hlabel.exists_render a.showsLabels_labelTemplate (d.pluralLabel t) (d.label t)
  obtain ⟨documentation, hrender'⟩ :=
    hdocumentation.exists_render a.showsLabels_documentationTemplate (d.pluralLabel t) (d.label t)
  rw [Dimension.baseMetric_eq_of_rendered hrender hrender' hcolumn, baseName]
  cases hslug : slug d.module d.id with
  | error e =>
    obtain ⟨-, rfl⟩ := slug_eq_error_iff.1 hslug
    exact .inl ⟨rfl, rfl⟩
  | ok s =>
    refine .inr ⟨s, rfl, ?_⟩
    have hname : a.namePrefix ++ s ≠ "" := by cases a <;> simp [Aggregation.namePrefix]
    by_cases hcategory : d.category = ""
    · have hmake := BaseMetric.make_of_no_category hname label documentation (a.expression column) a
        hcategory
      exact .inl ⟨hcategory, mapError_eq_error.2 ⟨_, hmake, rfl⟩⟩
    · obtain ⟨m, hmake⟩ := BaseMetric.exists_make hname label documentation (a.expression column) a
        hcategory
      exact .inr ⟨hcategory, m, mapError_eq_ok.2 hmake⟩

theorem Dimension.exists_baseMetric_iff :
    (∃ m, d.baseMetric t a = .ok m) ↔ d.category ≠ "" ∧ ∃ s, slug d.module d.id = .ok s := by
  rcases Dimension.baseMetric_cases hd hlabel hdocumentation with
    ⟨hslug, hmetric⟩ | ⟨s, hslug, ⟨hcategory, hmetric⟩ | ⟨hcategory, hmetric⟩⟩
  · rw [hmetric, hslug]
    exact iff_of_false nofun nofun
  · rw [hmetric]
    exact iff_of_false nofun fun h => h.1 hcategory
  · exact iff_of_true hmetric ⟨hcategory, s, hslug⟩

theorem Dimension.baseMetric_eq_error_iff {e : Fault} : d.baseMetric t a = .error e ↔
    slug d.module d.id = .error (.noSlug d.module d.id) ∧ e = .error (.noSlug d.module d.id) ∨
      ∃ s, slug d.module d.id = .ok s ∧ d.category = "" ∧ e = .error (.noCategory (a.namePrefix ++ s)) := by
  rcases Dimension.baseMetric_cases hd hlabel hdocumentation with
    ⟨hslug, hmetric⟩ | ⟨s, hslug, ⟨hcategory, hmetric⟩ | ⟨hcategory, m, hmetric⟩⟩
  · rw [hmetric, hslug, Except.error.injEq]
    constructor
    · exact fun he => .inl ⟨rfl, he.symm⟩
    · rintro (⟨-, rfl⟩ | ⟨s, hs, -⟩)
      · rfl
      · cases hs
  · rw [hmetric, hslug, Except.error.injEq]
    constructor
    · exact fun he => .inr ⟨s, rfl, hcategory, he.symm⟩
    · rintro (⟨hnone, -⟩ | ⟨s', hs', -, rfl⟩)
      · cases hnone
      · cases hs'
        rfl
  · rw [hmetric, hslug]
    refine iff_of_false nofun ?_
    rintro (⟨hnone, -⟩ | ⟨-, -, hempty, -⟩)
    · cases hnone
    · exact hcategory hempty

/-- A base metric of a validated dimension is made exactly if the dimension has a category and a slug. Without
a slug the dimension is at fault, with one and without a category the metric, and nothing else goes wrong: the
column can be told, and the tables of prefixes and expressions have an entry for every kind, as those of
templates do. -/
theorem Dimension.baseMetric_of_validated :
    ((∃ m, d.baseMetric t a = .ok m) ↔ d.category ≠ "" ∧ ∃ s, slug d.module d.id = .ok s) ∧
    (∀ e, d.baseMetric t a = .error e ↔
      slug d.module d.id = .error (.noSlug d.module d.id) ∧ e = .error (.noSlug d.module d.id) ∨
        ∃ s, slug d.module d.id = .ok s ∧ d.category = "" ∧
          e = .error (.noCategory (a.namePrefix ++ s))) ∧
    (∀ e, d.baseMetric t a = .error e →
      ∃ x, e = .error x ∧ (x.family = .dimension ∨ x.family = .metric)) ∧
    ∃ column, d.columnExpression = .ok column ∧ namePrefixOf (.str a.text) = .ok a.namePrefix ∧
      expressionOf (.str a.text) column = .ok (a.expression column) := by
  obtain ⟨column, hcolumn⟩ := Dimension.exists_columnExpression hd
  have htables : namePrefixOf (.str a.text) = .ok a.namePrefix ∧
      expressionOf (.str a.text) column = .ok (a.expression column) := by
    rw [namePrefixOf, expressionOf, a.find_text, a.find_text]
    exact ⟨rfl, rfl⟩
  refine ⟨Dimension.exists_baseMetric_iff hd hlabel hdocumentation,
    fun e => Dimension.baseMetric_eq_error_iff hd hlabel hdocumentation, fun e he => ?_,
    column, hcolumn, htables⟩
  rcases (Dimension.baseMetric_eq_error_iff hd hlabel hdocumentation).1 he with ⟨-, rfl⟩ | ⟨s, -, -, rfl⟩
  · exact ⟨_, rfl, .inl rfl⟩
  · exact ⟨_, rfl, .inr rfl⟩

end

/-- A dimension with a table and a column, in a category or in none. -/
def countryDocument (category : String) : List (String × Json) :=
  [("id", .str "country"), ("module", .str "User"), ("category_id", .str category),
   ("table", .str "log_visit"), ("column", .str "country"), ("labelKey", .str "Country")]

def countryDimension (category : String) : Dimension :=
  ⟨"country", "User", category, some "log_visit", some "country", none, "Country", none⟩

/-- A catalog with templates for counts, one of them with both labels and with braces around them. -/
def bracedCatalog : Catalog where
  locale := "de"
  messages := .ofList
    [("Metric_Count", "\x7b\x7b\x7bplural\x7d\x7d\x7d / \x7blabel\x7d"), ("Metric_CountDocumentation", "")]
  contexts := .empty

theorem Dimension.baseMetric_of_validated_countryDimension :
    let t := Translator.ofCatalogs [bracedCatalog] "de" "en"
    let keeps := t.KeepsToLabels Aggregation.count.labelTemplate ∧
      t.KeepsToLabels Aggregation.count.documentationTemplate
    Dimension.ofMembers (countryDocument "users") = .ok (countryDimension "users") ∧
    Dimension.ofMembers (countryDocument "") = .ok (countryDimension "") ∧ keeps ∧
    (∃ m, (countryDimension "users").baseMetric t .count = .ok m) ∧
    (countryDimension "").baseMetric t .count = .error (.error (.noCategory "nb_user_country")) := by
  intro t keeps
  have hd (category : String) :
      Dimension.ofMembers (countryDocument category) = .ok (countryDimension category) := rfl
  have hslug : slug "User" "country" = .ok "user_country" := rfl
  have hlabel : t.KeepsToLabels Aggregation.count.labelTemplate := by
    intro text htext
    cases htext
    exact ⟨[.text "\x7b".toList, .named "plural".toList, .text "\x7d / ".toList, .named "label".toList],
      by simp [Part.AsksForLabel], by decide⟩
  have hdocumentation : t.KeepsToLabels Aggregation.count.documentationTemplate := by
    intro text htext
    cases htext
    exact ⟨[], List.forall_mem_nil _, rfl⟩
  obtain ⟨hmade, -⟩ := Dimension.baseMetric_of_validated (hd "users") hlabel hdocumentation
  obtain ⟨-, hrefused, -⟩ := Dimension.baseMetric_of_validated (hd "") hlabel hdocumentation
  refine ⟨hd "users", hd "", ⟨hlabel, hdocumentation⟩, hmade.2 ⟨by decide, _, hslug⟩, ?_⟩
  exact (hrefused _).2 (.inr ⟨_, hslug, rfl, rfl⟩)

end Yardstick
