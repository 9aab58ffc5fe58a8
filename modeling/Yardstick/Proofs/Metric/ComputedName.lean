import Mathlib.Data.List.Infix
import Yardstick.Metric.Name
import Yardstick.Report.Definition

/-!
# Names of computed metrics

The name of a computed metric joins what is left of its dependencies' names by a separator, and what is
left may hold the separator too. So one name may be cut in several ways, and different requests may
ask for metrics of one name: `SharesName` lists the ways, and there is no other
(`computedName_eq_iff`).
-/

namespace Yardstick

/-! ## Parts of a name -/

/-- What the name of a computed metric begins with. -/
def Formula.opening : Formula → String
  | average => "avg_"
  | rate => ""

/-- What stands between the names of the dependencies. -/
def Formula.separator : Formula → String
  | average => "_per_"
  | rate => "_"

/-- What the name of a computed metric ends with. -/
def Formula.closing : Formula → String
  | average => ""
  | rate => "_rate"

theorem computedName_eq (numerator denominator : String) (f : Formula) :
    computedName numerator denominator f = f.opening ++
      (withoutPrefix numerator ++ (f.separator ++ withoutPrefix denominator)) ++ f.closing := by
  cases f <;> simp [computedName, Formula.opening, Formula.separator, Formula.closing,
    String.append_assoc]

/-- The request `q` asks for a metric of the name that `p` asks for, too. -/
inductive SharesName (p q : ComputedRequest) : Prop
  /-- Both divide the same by the same but for prefixes. -/
  | operands : p.formula = q.formula → withoutPrefix p.numerator = withoutPrefix q.numerator →
    withoutPrefix p.denominator = withoutPrefix q.denominator → SharesName p q
  /-- The separator stands twice, and `q` is cut at the later place. -/
  | laterSeparator (between : String) : p.formula = q.formula →
    withoutPrefix q.numerator = withoutPrefix p.numerator ++ p.formula.separator ++ between →
    withoutPrefix p.denominator = between ++ p.formula.separator ++ withoutPrefix q.denominator →
      SharesName p q
  /-- The separator of averages stands twice, and the underscore between is one. -/
  | sharedUnderscore : p.formula = .average → q.formula = .average →
    withoutPrefix q.numerator = withoutPrefix p.numerator ++ "_per" →
    withoutPrefix p.denominator = "per_" ++ withoutPrefix q.denominator → SharesName p q
  /-- An average ends as a rate does, and is a rate if it is cut at another underscore. -/
  | rateOfAverage (beforeRate : String) : p.formula = .average → q.formula = .rate →
    "_" ++ withoutPrefix p.denominator = beforeRate ++ "_rate" →
    withoutPrefix q.numerator ++ "_" ++ withoutPrefix q.denominator =
      "avg_" ++ withoutPrefix p.numerator ++ "_per" ++ beforeRate → SharesName p q

/-! ## Texts cut in two ways -/

section

variable {s t u v l r l' r' a : String}

theorem string_append_eq_append_iff : s ++ t = u ++ v ↔
    (∃ m, u = s ++ m ∧ t = m ++ v) ∨ ∃ m, s = u ++ m ∧ v = m ++ t := by
  simp only [← String.toList_inj, String.toList_append]
  rw [List.append_eq_append_iff]
  constructor
  · rintro (⟨m, h⟩ | ⟨m, h⟩)
    · exact .inl ⟨String.ofList m, by simpa using h⟩
    · exact .inr ⟨String.ofList m, by simpa using h⟩
  · rintro (⟨m, h⟩ | ⟨m, h⟩)
    · exact .inl ⟨m.toList, h⟩
    · exact .inr ⟨m.toList, h⟩

/-- An end of a separator that is empty or begins with an underscore. -/
theorem Formula.eq_of_suffix_separator (f : Formula) : ∀ m ∈ f.separator.toList.tails,
    m = [] ∨ m.head? = some '_' →
      m = [] ∨ m = f.separator.toList ∨ f = .average ∧ m = ['_'] := by
  cases f <;> decide

/-- How a separator may come up again after a text that it is the start of: at once, after the whole of
it, or, that of averages, sharing its last underscore. -/
theorem Formula.separator_overlap (f : Formula) (h : f.separator ++ r = a ++ (f.separator ++ r')) :
    (a = "" ∧ r = r') ∨ (∃ m, a = f.separator ++ m ∧ r = m ++ f.separator ++ r') ∨
      (f = .average ∧ a = "_per" ∧ r = "per_" ++ r') := by
  rcases string_append_eq_append_iff.1 h with ⟨m, rfl, hr⟩ | ⟨m, hsep, hr⟩
  · exact .inr (.inl ⟨m, rfl, by rw [hr, String.append_assoc]⟩)
  · have htail : m.toList ∈ f.separator.toList.tails := by
      rw [List.mem_tails, hsep, String.toList_append]
      exact List.suffix_append _ _
    have hhead : m.toList = [] ∨ m.toList.head? = some '_' := by
      have hlists := congrArg String.toList hr
      rw [String.toList_append, String.toList_append] at hlists
      cases hm : m.toList with
      | nil => exact .inl rfl
      | cons c m' =>
        rw [hm] at hlists
        have hc := congrArg List.head? hlists
        cases f <;> exact .inr hc.symm
    rcases f.eq_of_suffix_separator _ htail hhead with hm | hm | ⟨rfl, hm⟩
    · obtain rfl := String.toList_eq_nil_iff.1 hm
      rw [String.append_empty] at hsep
      rw [String.empty_append] at hr
      refine .inr (.inl ⟨"", ?_, ?_⟩)
      · rw [hsep, String.append_empty]
      · rw [← hr, String.empty_append]
    · rw [String.toList_inj] at hm
      rw [hm, String.append_right_inj] at hr
      rw [hm] at hsep
      have ha : "" ++ f.separator = a ++ f.separator := by rw [String.empty_append, ← hsep]
      exact .inl ⟨((String.append_left_inj _).1 ha).symm, hr.symm⟩
    · obtain rfl : m = "_" := String.toList_inj.1 hm
      have ha : "_per" ++ "_" = a ++ "_" := hsep
      have hr : "_" ++ ("per_" ++ r') = "_" ++ r := by rw [← hr, ← String.append_assoc]; rfl
      exact .inr (.inr ⟨rfl, ((String.append_left_inj _).1 ha).symm,
        ((String.append_right_inj _).1 hr).symm⟩)

/-- A text that ends as the names of rates do, its last part after an underscore being known. -/
theorem append_underscore_eq_append_rate (h : s ++ ("_" ++ r) = t ++ "_rate") :
    ∃ m, "_" ++ r = m ++ "_rate" ∧ t = s ++ m := by
  rcases string_append_eq_append_iff.1 h with ⟨m, ht, hr⟩ | ⟨m, hs, hrate⟩
  · exact ⟨m, hr, ht⟩
  · have hends : ∀ l ∈ "_rate".toList.tails, l.head? = some '_' → l = "_rate".toList := by decide
    have htail : ("_" ++ r).toList ∈ "_rate".toList.tails := by
      rw [List.mem_tails]
      exact ⟨m.toList, by rw [← String.toList_append, ← hrate]⟩
    have hr : "_" ++ r = "_rate" := String.toList_inj.1 (hends _ htail (by rw [String.toList_append]; rfl))
    obtain rfl : m = "" := by
      have hm : "" ++ "_rate" = m ++ "_rate" := by rw [String.empty_append, ← hr, ← hrate, hr]
      exact ((String.append_left_inj _).1 hm).symm
    refine ⟨"", ?_, ?_⟩
    · rw [hr, String.empty_append]
    · rw [hs, String.append_empty, String.append_empty]

/-! ## Requests that share a name -/

variable {p q : ComputedRequest}

theorem computedName_average_eq (numerator denominator : String) :
    computedName numerator denominator .average =
      "avg_" ++ withoutPrefix numerator ++ "_per" ++ ("_" ++ withoutPrefix denominator) := by
  have hsep : "_per_" = "_per" ++ "_" := rfl
  simp only [computedName, hsep, String.append_assoc]

theorem computedName_rate_eq (numerator denominator : String) :
    computedName numerator denominator .rate =
      withoutPrefix numerator ++ "_" ++ withoutPrefix denominator ++ "_rate" := rfl

theorem SharesName.computedName_eq (h : SharesName p q) :
    computedName p.numerator p.denominator p.formula =
      computedName q.numerator q.denominator q.formula := by
  cases h with
  | operands hf hl hr => rw [Yardstick.computedName_eq, Yardstick.computedName_eq, hf, hl, hr]
  | laterSeparator between hf hl hr =>
    rw [Yardstick.computedName_eq, Yardstick.computedName_eq, ← hf, hl, hr]
    simp only [String.append_assoc]
  | sharedUnderscore hf hf' hl hr =>
    have hper : "_" ++ ("per_" ++ withoutPrefix q.denominator) =
        "_per" ++ ("_" ++ withoutPrefix q.denominator) := by
      rw [← String.append_assoc, ← String.append_assoc]
      rfl
    rw [hf, hf', computedName_average_eq, computedName_average_eq, hl, hr, hper]
    simp only [String.append_assoc]
  | rateOfAverage beforeRate hf hf' hr hjoin =>
    rw [hf, hf', computedName_average_eq, computedName_rate_eq, hr, hjoin]
    simp only [String.append_assoc]

/-- The text between the two places where a name is cut is nothing, or holds the separator, or ends in
the middle of it. -/
theorem sharesName_of_later_cut {m : String} (hf : p.formula = q.formula)
    (hl : withoutPrefix q.numerator = withoutPrefix p.numerator ++ m)
    (hr : p.formula.separator ++ withoutPrefix p.denominator =
      m ++ (p.formula.separator ++ withoutPrefix q.denominator)) : SharesName p q := by
  rcases p.formula.separator_overlap hr with ⟨rfl, hr'⟩ | ⟨between, rfl, hr'⟩ | ⟨haverage, rfl, hr'⟩
  · exact .operands hf (by rw [hl, String.append_empty]) hr'
  · exact .laterSeparator between hf (by rw [hl, String.append_assoc]) hr'
  · exact .sharedUnderscore haverage (hf ▸ haverage) hl hr'

theorem sharesName_of_formula_eq (hf : p.formula = q.formula)
    (h : computedName p.numerator p.denominator p.formula =
      computedName q.numerator q.denominator q.formula) : SharesName p q ∨ SharesName q p := by
  rw [computedName_eq, computedName_eq, ← hf, String.append_left_inj, String.append_right_inj] at h
  rcases string_append_eq_append_iff.1 h with ⟨m, hl, hr⟩ | ⟨m, hl, hr⟩
  · exact .inl (sharesName_of_later_cut hf hl hr)
  · rw [hf] at hr
    exact .inr (sharesName_of_later_cut hf.symm hl hr)

theorem sharesName_of_average_of_rate (hp : p.formula = .average) (hq : q.formula = .rate)
    (h : computedName p.numerator p.denominator p.formula =
      computedName q.numerator q.denominator q.formula) : SharesName p q := by
  rw [hp, hq, computedName_average_eq, computedName_rate_eq] at h
  obtain ⟨beforeRate, hr, hjoin⟩ := append_underscore_eq_append_rate h
  exact .rateOfAverage beforeRate hp hq hr hjoin

/-- Two requests ask for metrics of one name exactly if one of them shares the name of the other. -/
theorem computedName_eq_iff :
    computedName p.numerator p.denominator p.formula =
        computedName q.numerator q.denominator q.formula ↔ SharesName p q ∨ SharesName q p := by
  constructor
  · intro h
    cases hp : p.formula <;> cases hq : q.formula
    · exact sharesName_of_formula_eq (hp.trans hq.symm) h
    · exact .inl (sharesName_of_average_of_rate hp hq h)
    · exact .inr (sharesName_of_average_of_rate hq hp h.symm)
    · exact sharesName_of_formula_eq (hp.trans hq.symm) h
  · rintro (h | h)
    · exact h.computedName_eq
    · exact h.computedName_eq.symm

end

end Yardstick
