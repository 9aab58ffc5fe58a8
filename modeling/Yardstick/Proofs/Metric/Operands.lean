import Yardstick.Proofs.Metric.ComputedName
import Yardstick.Proofs.Plan.Resolved

/-!
# Operands of computed names

The name of a computed metric joins what is left of two names. Something is left of every name that is
not empty, and no metric is resolved from an empty one, so both operands can be read in the name
(`joinsOperands_of_computedMetric`). What is left does not depend on the order of the table of prefixes
(`withoutPrefix_leaves_remainder`).
-/

namespace Yardstick

section

variable {name numerator denominator category : String} {formula : Formula} {t : Translator}
  {m : ComputedMetric}

/-- The name joins what is left of two names, something of each. -/
structure JoinsOperands (name numerator denominator : String) (f : Formula) : Prop where
  joined : name = f.opening ++
    (withoutPrefix numerator ++ (f.separator ++ withoutPrefix denominator)) ++ f.closing
  left_ne : withoutPrefix numerator ≠ ""
  right_ne : withoutPrefix denominator ≠ ""

theorem withoutPrefix_ne_empty (h : name ≠ "") : withoutPrefix name ≠ "" :=
  (remainder_withoutPrefix name).ne_empty h

theorem joinsOperands_computedName (formula : Formula) (hn : numerator ≠ "") (hd : denominator ≠ "") :
    JoinsOperands (computedName numerator denominator formula) numerator denominator formula :=
  ⟨computedName_eq numerator denominator formula, withoutPrefix_ne_empty hn, withoutPrefix_ne_empty hd⟩

/-- Whatever names a metric is resolved from, none of them is empty. -/
theorem joinsOperands_of_computedMetric
    (h : computedMetric numerator denominator formula category t = .ok m) :
    JoinsOperands m.name numerator denominator formula := by
  obtain ⟨hname, hdependencies⟩ := computedMetric_eq_ok h
  obtain ⟨hnumerator, htail⟩ := List.cons.inj hdependencies
  obtain ⟨hdenominator, -⟩ := List.cons.inj htail
  have hn : numerator ≠ "" := hnumerator ▸ m.numerator_ne
  have hd : denominator ≠ "" := hdenominator ▸ m.denominator_ne
  rw [hname]
  exact joinsOperands_computedName formula hn hd

end

/-- A name that is a prefix of the table or starts with none stays as it is, and every other one loses
the longest prefix that it starts with. What is left is an end of the name, not empty unless the name is,
and the same for every order of the table. So no computed metric has an empty operand in its name. -/
theorem withoutPrefix_leaves_remainder (name : String) :
    (∀ r, Remainder prefixTable name r ↔ r = withoutPrefix name) ∧
    (withoutPrefix name).toList <:+ name.toList ∧ (name ≠ "" → withoutPrefix name ≠ "") ∧
    (∀ table, table.Perm prefixTable → withoutPrefixOf table name = withoutPrefix name) ∧
    (∀ numerator denominator formula, numerator ≠ "" → denominator ≠ "" →
      JoinsOperands (computedName numerator denominator formula) numerator denominator formula) ∧
    ∀ numerator denominator formula category t m,
      computedMetric numerator denominator formula category t = .ok m →
        JoinsOperands m.name numerator denominator formula := by
  refine ⟨fun r => ?_, (remainder_withoutPrefix name).suffix, withoutPrefix_ne_empty,
    fun table htable => ?_, fun _ _ formula => joinsOperands_computedName formula,
    fun _ _ _ _ _ _ => joinsOperands_of_computedMetric⟩
  · rw [withoutPrefix_eq]
    exact remainder_iff
  · rw [withoutPrefix_eq]
    exact withoutPrefixOf_congr fun _ => htable.mem_iff

/-- A name with a prefix after its prefix, and one that is a prefix, by the table in its own order and in
the opposite one. -/
theorem withoutPrefix_leaves_remainder_stackedPrefixes :
    "nb_uniq_nb_" ≠ "" ∧ withoutPrefix "nb_uniq_nb_" = "nb_" ∧ "nb_" ≠ "" ∧ withoutPrefix "nb_" = "nb_" ∧
    prefixTable.reverse.Perm prefixTable ∧ withoutPrefixOf prefixTable.reverse "nb_uniq_nb_" = "nb_" ∧
    JoinsOperands "nb__nb__rate" "nb_uniq_nb_" "nb_" .rate := by
  have hleft : "nb_uniq_nb_" ≠ "" := by decide
  have hright : "nb_" ≠ "" := by decide
  have hstacked : withoutPrefix "nb_uniq_nb_" = "nb_" := by decide
  have horder := List.reverse_perm prefixTable
  obtain ⟨-, -, -, htables, hnames, -⟩ := withoutPrefix_leaves_remainder "nb_uniq_nb_"
  exact ⟨hleft, hstacked, hright, by decide, horder, (htables _ horder).trans hstacked,
    hnames _ _ .rate hleft hright⟩

end Yardstick
