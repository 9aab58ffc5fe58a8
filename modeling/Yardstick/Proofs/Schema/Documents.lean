import Yardstick.Proofs.Schema.Record
import Yardstick.Schema.Catalog

/-!
# Documents written and read again

A model is read exactly if each of its fields is (`Dimension.ofMembers_eq_ok_iff` and its companions), and so
it is written field by field as a document of which the same is read, in either spelling
(`Schema.restores_everyModel`). It does not matter how the first document spells its fields, which of them it
leaves out and what else it holds.
-/

namespace Yardstick

open Schema Schema.Checked

section

variable {ms : List (String × Json)} (style : Style)

/-! ## Dimensions -/

theorem Dimension.requireColumn_eq_ok {d d' : Dimension} :
    requireColumn d = .ok d' ↔ d = d' ∧ d.column?.isSome = true := by
  unfold requireColumn
  cases d.column? <;> simp [fail]

/-- The fields of a dimension are read one by one, and together they have to give it a column. -/
theorem Dimension.ofMembers_eq_ok_iff {d : Dimension} : ofMembers ms = .ok d ↔
    (required idKey nonemptyText ms = .ok d.id ∧ required moduleKey nonemptyText ms = .ok d.module ∧
      required categoryKey text ms = .ok d.category ∧
      optional tableKey none (nullable text) ms = .ok d.table ∧
      optional columnKey none (nullable text) ms = .ok d.column ∧
      optional segmentKey none (nullable text) ms = .ok d.sqlSegment ∧
      required labelKeyKey text ms = .ok d.labelKey ∧
      optional pluralLabelKeyKey none (nullable text) ms = .ok d.pluralLabelKey) ∧
    d.column?.isSome = true := by
  have hbind : ofMembers ms = .ok d ↔ _ := bind_eq_ok
  rw [hbind]
  simp only [requireColumn_eq_ok, ← and_assoc]
  cases d
  simp [app_eq_ok, map_eq_ok, and_assoc]

theorem Dimension.restores : Restores ofMembers (toMembers · style) := by
  intro ms d h
  obtain ⟨⟨hid, hmodule, hcategory, htable, hcolumn, hsegment, hlabel, hplural⟩, hstored⟩ :=
    ofMembers_eq_ok_iff.1 h
  cases style <;> exact ofMembers_eq_ok_iff.2
    ⟨⟨restores_nonemptyText.required hid rfl, restores_nonemptyText.required hmodule rfl,
      restores_text.required hcategory rfl, restores_optionalText.optional rfl htable rfl,
      restores_optionalText.optional rfl hcolumn rfl, restores_optionalText.optional rfl hsegment rfl,
      restores_text.required hlabel rfl, restores_optionalText.optional rfl hplural rfl⟩, hstored⟩

/-! ## Requests and reports -/

theorem CustomRequest.ofMembers_eq_ok_iff {r : CustomRequest} : ofMembers ms = .ok r ↔
    required nameKey nonemptyText ms = .ok r.name ∧ required translatedNameKey text ms = .ok r.label ∧
    required templateKey text ms = .ok r.template ∧
    optional documentationKey "" text ms = .ok r.documentation := by
  cases r
  simp [ofMembers, app_eq_ok, map_eq_ok, and_assoc]

theorem CustomRequest.restores : Restores ofMembers (toMembers · style) := by
  intro ms r h
  obtain ⟨hname, hlabel, htemplate, hdocumentation⟩ := ofMembers_eq_ok_iff.1 h
  cases style <;> exact ofMembers_eq_ok_iff.2
    ⟨restores_nonemptyText.required hname rfl, restores_text.required hlabel rfl,
      restores_text.required htemplate rfl, restores_text.optional rfl hdocumentation rfl⟩

theorem ComputedRequest.ofMembers_eq_ok_iff {r : ComputedRequest} : ofMembers ms = .ok r ↔
    required numeratorKey nonemptyText ms = .ok r.numerator ∧
    required denominatorKey nonemptyText ms = .ok r.denominator ∧
    required formulaKey Formula.check ms = .ok r.formula := by
  cases r
  simp [ofMembers, app_eq_ok, map_eq_ok]

theorem ComputedRequest.restores : Restores ofMembers (toMembers · style) := by
  intro ms r h
  obtain ⟨hnumerator, hdenominator, hformula⟩ := ofMembers_eq_ok_iff.1 h
  cases style <;> exact ofMembers_eq_ok_iff.2
    ⟨restores_nonemptyText.required hnumerator rfl, restores_nonemptyText.required hdenominator rfl,
      restores_formula.required hformula rfl⟩

theorem DimensionRequest.ofMembers_eq_ok_iff {r : DimensionRequest} : ofMembers ms = .ok r ↔
    required dimensionKey (model "DimensionDefinition" Dimension.ofMembers) ms = .ok r.dimension ∧
    optional aggregationsKey [] (list Aggregation.check) ms = .ok r.aggregations ∧
    optional customKey [] (list (model "CustomMetricDefinition" CustomRequest.ofMembers)) ms =
      .ok r.custom ∧
    optional computedKey [] (list (model "ComputedMetricDefinition" ComputedRequest.ofMembers)) ms =
      .ok r.computed := by
  cases r
  simp [ofMembers, app_eq_ok, map_eq_ok, and_assoc]

theorem DimensionRequest.restores : Restores ofMembers (toMembers · style) := by
  intro ms r h
  obtain ⟨hdimension, haggregations, hcustom, hcomputed⟩ := ofMembers_eq_ok_iff.1 h
  have hdimensions := (Dimension.restores style).model "DimensionDefinition"
  have hcustoms := ((CustomRequest.restores style).model "CustomMetricDefinition").list
  have hcomputeds := ((ComputedRequest.restores style).model "ComputedMetricDefinition").list
  cases style <;> exact ofMembers_eq_ok_iff.2
    ⟨hdimensions.required hdimension rfl, restores_aggregation.list.optional rfl haggregations rfl,
      hcustoms.optional rfl hcustom rfl, hcomputeds.optional rfl hcomputed rfl⟩

theorem ReportDefinition.ofMembers_eq_ok_iff {d : ReportDefinition} : ofMembers ms = .ok d ↔
    required idKey text ms = .ok d.id ∧
    required dimensionsKey (list (model "DimensionMetricsDefinition" DimensionRequest.ofMembers)) ms =
      .ok d.dimensions := by
  cases d
  simp [ofMembers, app_eq_ok, map_eq_ok]

theorem ReportDefinition.restores : Restores ofMembers (toMembers · style) := by
  intro ms d h
  obtain ⟨hid, hdimensions⟩ := ofMembers_eq_ok_iff.1 h
  have hrequests := ((DimensionRequest.restores style).model "DimensionMetricsDefinition").list
  cases style <;> exact ofMembers_eq_ok_iff.2
    ⟨restores_text.required hid rfl, hrequests.required hdimensions rfl⟩

/-! ## Catalogs and records -/

theorem Catalog.ofMembers_eq_ok_iff {c : Catalog} : ofMembers ms = .ok c ↔
    required localeKey nonemptyText ms = .ok c.locale ∧
    optional messagesKey .empty (table text) ms = .ok c.messages ∧
    optional contextsKey .empty (table (table text)) ms = .ok c.contexts := by
  cases c
  simp [ofMembers, app_eq_ok, map_eq_ok]

theorem Catalog.restores : Restores ofMembers (toMembers · style) := by
  intro ms c h
  obtain ⟨hlocale, hmessages, hcontexts⟩ := ofMembers_eq_ok_iff.1 h
  cases style <;> exact ofMembers_eq_ok_iff.2
    ⟨restores_nonemptyText.required hlocale rfl, restores_text.table.optional rfl hmessages rfl,
      restores_text.table.table.optional rfl hcontexts rfl⟩

theorem BaseRecord.restores : Restores ofMembers (toMembers · style) :=
  fun _ r _ => r.ofMembers_toMembers style

theorem ComputedRecord.length_dependencies {r : ComputedRecord} (h : ofMembers ms = .ok r) :
    r.dependencies.length = 2 := by
  obtain ⟨-, -, -, -, -, -, hdependencies⟩ := ofMembers_eq_ok_iff.1 h
  obtain ⟨v, hv⟩ := exists_of_required hdependencies
  exact length_of_listOf hv

theorem ComputedRecord.restores : Restores ofMembers (toMembers · style) :=
  fun _ r h => r.ofMembers_toMembers style (length_dependencies h)

end

/-! ## All models -/

/-- Whatever document a model was read from, and in whichever spelling it and the models inside it are
written, what is written is read as the same model. -/
theorem Schema.restores_everyModel (style : Style) :
    Restores Dimension.ofMembers (Dimension.toMembers · style) ∧
    Restores CustomRequest.ofMembers (CustomRequest.toMembers · style) ∧
    Restores ComputedRequest.ofMembers (ComputedRequest.toMembers · style) ∧
    Restores DimensionRequest.ofMembers (DimensionRequest.toMembers · style) ∧
    Restores ReportDefinition.ofMembers (ReportDefinition.toMembers · style) ∧
    Restores Catalog.ofMembers (Catalog.toMembers · style) ∧
    Restores BaseRecord.ofMembers (BaseRecord.toMembers · style) ∧
    Restores ComputedRecord.ofMembers (ComputedRecord.toMembers · style) :=
  ⟨Dimension.restores style, CustomRequest.restores style, ComputedRequest.restores style,
    DimensionRequest.restores style, ReportDefinition.restores style, Catalog.restores style,
    BaseRecord.restores style, ComputedRecord.restores style⟩

/-- A document with fields in both spellings, one of them twice, with fields left out and with one that
belongs to no model. -/
def mixedDocument : List (String × Json) :=
  [("report_id", .str "countries"), ("version", .int 2),
   ("dimensions", .arr [.obj
     [("dimension", .obj
       [("id", .str "country"), ("module", .str "User"), ("category_id", .str "old"),
        ("categoryId", .str "users"), ("table", .null), ("sql_segment", .str "country"),
        ("labelKey", .str "Country")]),
      ("custom_metrics", .arr [.obj
        [("name", .str "nb_doubled"), ("translatedName", .str "Doubled"),
         ("aggregation", .str "2 * %s")]]),
      ("aggregations", .arr [.str "unique_count"])]])]

def mixedReport : ReportDefinition where
  id := "countries"
  dimensions := [{
    dimension := ⟨"country", "User", "users", none, none, some "country", "Country", none⟩
    aggregations := [.uniqueCount]
    custom := [⟨"nb_doubled", "Doubled", "2 * %s", ""⟩]
    computed := [] }]

theorem Schema.restores_everyModel_mixedReport :
    ReportDefinition.ofMembers mixedDocument = .ok mixedReport ∧
      ReportDefinition.ofMembers (mixedReport.toMembers .camel) = .ok mixedReport ∧
      ReportDefinition.ofMembers (mixedReport.toMembers .snake) = .ok mixedReport := by
  have hread : ReportDefinition.ofMembers mixedDocument = .ok mixedReport := rfl
  obtain ⟨-, -, -, -, hcamel, -⟩ := Schema.restores_everyModel .camel
  obtain ⟨-, -, -, -, hsnake, -⟩ := Schema.restores_everyModel .snake
  exact ⟨hread, hcamel mixedDocument mixedReport hread, hsnake mixedDocument mixedReport hread⟩

end Yardstick
