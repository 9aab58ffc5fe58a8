import Yardstick.Proofs.Schema.Fields
import Yardstick.Schema.Record

/-!
# Records of metrics

A record written as a document in either style is read back from it, and the record of a metric gives
the metric back (`Record.toMetric_ofMetric`): what a metric requires holds of the one that the record
was made of.
-/

namespace Yardstick

open Schema Schema.Checked

/-! ## Records -/

section

variable {ms : List (String × Json)}

theorem BaseRecord.ofMembers_eq_ok_iff {r : BaseRecord} : ofMembers ms = .ok r ↔
    optional Record.typeKey Record.baseType text ms = .ok r.type ∧
    required Record.nameKey text ms = .ok r.name ∧ required translatedNameKey text ms = .ok r.label ∧
    required Record.documentationKey text ms = .ok r.documentation ∧
    required categoryKey text ms = .ok r.category ∧
    required Record.expressionKey text ms = .ok r.expression ∧
    optional Record.aggregationKey none (nullable Aggregation.check) ms = .ok r.aggregation := by
  cases r
  simp [ofMembers, app_eq_ok, map_eq_ok, and_assoc]

theorem BaseRecord.ofMembers_toMembers (r : BaseRecord) (style : Style) :
    BaseRecord.ofMembers (r.toMembers style) = .ok r := by
  have haggregation : nullable Aggregation.check (optionalText (r.aggregation.map Aggregation.text)) =
      .ok r.aggregation := by
    cases r.aggregation with
    | none => rfl
    | some a => exact congrArg (Except.map some) a.check_text
  cases style <;> exact ofMembers_eq_ok_iff.2
    ⟨optional_eq_ok rfl rfl, required_eq_ok rfl rfl, required_eq_ok rfl rfl, required_eq_ok rfl rfl,
      required_eq_ok rfl rfl, required_eq_ok rfl rfl, optional_eq_ok rfl haggregation⟩

theorem ComputedRecord.ofMembers_eq_ok_iff {r : ComputedRecord} : ofMembers ms = .ok r ↔
    optional Record.typeKey Record.computedType text ms = .ok r.type ∧
    required Record.nameKey text ms = .ok r.name ∧ required translatedNameKey text ms = .ok r.label ∧
    required Record.documentationKey text ms = .ok r.documentation ∧
    required categoryKey text ms = .ok r.category ∧
    required Record.formulaKey Formula.check ms = .ok r.formula ∧
    required Record.dependenciesKey (listOf 2 text) ms = .ok r.dependencies := by
  cases r
  simp [ofMembers, app_eq_ok, map_eq_ok, and_assoc]

/-- The dependencies of a record are two, or they are not read back. -/
theorem ComputedRecord.ofMembers_toMembers (r : ComputedRecord) (style : Style)
    (hr : r.dependencies.length = 2) : ComputedRecord.ofMembers (r.toMembers style) = .ok r := by
  have hdependencies : listOf 2 text (.arr (r.dependencies.map .str)) = .ok r.dependencies :=
    listOf_map_of_forall hr fun _ _ => rfl
  cases style <;> exact ofMembers_eq_ok_iff.2
    ⟨optional_eq_ok rfl rfl, required_eq_ok rfl rfl, required_eq_ok rfl rfl, required_eq_ok rfl rfl,
      required_eq_ok rfl rfl, required_eq_ok rfl r.formula.check_text,
      required_eq_ok rfl hdependencies⟩

end

/-- The type of a metric's record tells which record it is. -/
theorem Record.ofMembers_toMembers (m : Metric) (style : Style) :
    Record.ofMembers ((Record.ofMetric m).toMembers style) = .ok (Record.ofMetric m) := by
  cases m with
  | base m =>
    let r : BaseRecord :=
      ⟨baseType, m.name, m.label, m.documentation, m.category, m.expression, m.aggregation⟩
    have hlookup : (r.toMembers style).lookup typeKey.camel = some (.str baseType) := by
      cases style <;> rfl
    have hne : baseType ≠ computedType := by decide
    show Record.ofMembers (r.toMembers style) = .ok (.base r)
    rw [Record.ofMembers, hlookup]
    show (if baseType = computedType then _ else _) = _
    rw [if_neg hne, r.ofMembers_toMembers style]
    rfl
  | computed m =>
    let r : ComputedRecord :=
      ⟨computedType, m.name, m.label, m.documentation, m.category, m.formula, m.dependencies⟩
    have hlookup : (r.toMembers style).lookup typeKey.camel = some (.str computedType) := by
      cases style <;> rfl
    show Record.ofMembers (r.toMembers style) = .ok (.computed r)
    rw [Record.ofMembers, hlookup]
    show (if computedType = computedType then _ else _) = _
    rw [if_pos rfl, r.ofMembers_toMembers style rfl]
    rfl

/-! ## Metrics -/

theorem BaseMetric.make_self (m : BaseMetric) :
    BaseMetric.make m.name m.label m.documentation m.category m.expression m.aggregation = .ok m := by
  rw [BaseMetric.make, dif_neg m.name_ne, dif_neg m.category_ne]

theorem ComputedMetric.make_self (m : ComputedMetric) :
    ComputedMetric.make m.name m.label m.documentation m.category m.formula m.dependencies = .ok m := by
  rw [ComputedMetric.make, dif_neg m.name_ne, dif_neg m.category_ne]
  show (if _ : m.numerator = "" then _ else if _ : m.denominator = "" then _
    else if _ : m.numerator = m.denominator then _ else _) = _
  rw [dif_neg m.numerator_ne, dif_neg m.denominator_ne, dif_neg m.distinct]

theorem Record.toMetric_ofMetric (m : Metric) : (Record.ofMetric m).toMetric = .ok m := by
  cases m with
  | base m => exact congrArg (Except.map Metric.base) m.make_self
  | computed m => exact congrArg (Except.map Metric.computed) m.make_self

end Yardstick
