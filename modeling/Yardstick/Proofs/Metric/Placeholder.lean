import Mathlib.Data.Set.Card
import Yardstick.Metric.Expression

/-!
# Placeholders of templates

A placeholder cuts a template into what stands before it and what stands after it. Placeholders never
overlap, so counting them from the front finds every cut (`encard_cuts`), and the one that is replaced
is a cut, too (`exists_cut_of_placeholders`). So a template is filled exactly if there is one way to cut
it, and is else refused with the number of ways (`substitute_iff_existsUnique_cut`).
-/

namespace Yardstick

/-! ## Cuts of a list of characters -/

/-- The ways to take a placeholder out of a text. -/
def cuts (s : List Char) : Set (List Char × List Char) := {cut | s = cut.1 ++ '%' :: 's' :: cut.2}

/-- The same place in a text that has one more character in front. -/
def Cut.after (c : Char) (cut : List Char × List Char) : List Char × List Char := (c :: cut.1, cut.2)

section

variable {c : Char} {s rest : List Char}

theorem Cut.after_injective (c : Char) : Function.Injective (Cut.after c) := by
  rintro ⟨pre, post⟩ ⟨pre', post'⟩ h
  obtain ⟨hpre, hpost⟩ := Prod.mk.inj h
  exact Prod.ext (List.cons.inj hpre).2 hpost

theorem cuts_nil : cuts [] = ∅ := by
  refine Set.eq_empty_of_forall_notMem fun cut hcut => ?_
  exact List.append_ne_nil_of_right_ne_nil _ (List.cons_ne_nil _ _) (Eq.symm hcut)

/-- A text is cut at its start, or where the rest of it is. -/
theorem mem_cuts_cons {cut : List Char × List Char} : cut ∈ cuts (c :: rest) ↔
    (cut.1 = [] ∧ c :: rest = '%' :: 's' :: cut.2) ∨ cut ∈ Cut.after c '' cuts rest := by
  obtain ⟨pre, post⟩ := cut
  constructor
  · intro h
    cases pre with
    | nil => exact .inl ⟨rfl, h⟩
    | cons d pre =>
      obtain ⟨rfl, hrest⟩ := List.cons.inj h
      exact .inr ⟨(pre, post), hrest, rfl⟩
  · rintro (⟨rfl, h⟩ | ⟨⟨pre', post'⟩, h, hcut⟩)
    · exact h
    · obtain ⟨rfl, rfl⟩ := Prod.mk.inj hcut
      exact congrArg (c :: ·) h

theorem cuts_cons_of_ne (h : ∀ post, c :: rest ≠ '%' :: 's' :: post) :
    cuts (c :: rest) = Cut.after c '' cuts rest := by
  ext cut
  rw [mem_cuts_cons]
  exact or_iff_right fun hstart => h _ hstart.2

/-- No placeholder begins in the middle of another. -/
theorem cuts_placeholder (rest : List Char) : cuts ('%' :: 's' :: rest) =
    insert ([], rest) (Cut.after '%' '' (Cut.after 's' '' cuts rest)) := by
  have hmiddle : cuts ('s' :: rest) = Cut.after 's' '' cuts rest := by
    apply cuts_cons_of_ne
    intro post h
    exact absurd (List.cons.inj h).1 (by decide)
  ext ⟨pre, post⟩
  rw [mem_cuts_cons, hmiddle, Set.mem_insert_iff]
  refine or_congr_left ?_
  simp only [List.cons.injEq, true_and, Prod.mk.injEq]
  exact and_congr_right fun _ => eq_comm

/-- Counting from the front finds every placeholder. -/
theorem encard_cuts (s : List Char) : (cuts s).encard = placeholders s := by
  fun_induction placeholders s with
  | case1 rest ih =>
    have hnew : ([], rest) ∉ Cut.after '%' '' (Cut.after 's' '' cuts rest) := by
      rintro ⟨cut, -, hcut⟩
      exact List.cons_ne_nil _ _ (Prod.mk.inj hcut).1
    rw [cuts_placeholder, Set.encard_insert_of_notMem hnew, (Cut.after_injective _).encard_image,
      (Cut.after_injective _).encard_image, ih, Nat.cast_add, Nat.cast_one]
  | case2 c rest hne ih =>
    have hstart : ∀ post, c :: rest ≠ '%' :: 's' :: post := by
      intro post h
      obtain ⟨hc, hrest⟩ := List.cons.inj h
      exact hne post hc hrest
    rw [cuts_cons_of_ne hstart, (Cut.after_injective _).encard_image, ih]
  | case3 => rw [cuts_nil, Set.encard_empty, Nat.cast_zero]

/-- What is replaced is a placeholder, and nothing else of the text is changed. -/
theorem exists_cut_of_placeholders (h : placeholders s ≠ 0) :
    ∃ cut ∈ cuts s, ∀ column, replaceFirst column s = cut.1 ++ column ++ cut.2 := by
  fun_induction placeholders s with
  | case1 rest _ => exact ⟨([], rest), rfl, fun column => rfl⟩
  | case2 c rest hne ih =>
    obtain ⟨cut, hcut, hreplaced⟩ := ih h
    refine ⟨Cut.after c cut, mem_cuts_cons.2 (.inr ⟨cut, hcut, rfl⟩), fun column => ?_⟩
    rw [replaceFirst.eq_2 column c rest hne, hreplaced column]
    rfl
  | case3 => exact absurd rfl h

end

/-! ## Cuts of a template -/

/-- The ways to write a template as a text, the placeholder and another text. -/
def placeholderCuts (template : String) : Set (String × String) :=
  {cut | template = cut.1 ++ "%s" ++ cut.2}

section

variable {template : String}

theorem mem_placeholderCuts {pre post : String} :
    (pre, post) ∈ placeholderCuts template ↔ (pre.toList, post.toList) ∈ cuts template.toList := by
  show template = pre ++ "%s" ++ post ↔ template.toList = pre.toList ++ '%' :: 's' :: post.toList
  rw [← String.toList_inj, String.toList_append, String.toList_append, List.append_assoc]
  rfl

theorem ofList_mem_placeholderCuts {pre post : List Char} (h : (pre, post) ∈ cuts template.toList) :
    (String.ofList pre, String.ofList post) ∈ placeholderCuts template := by
  rw [mem_placeholderCuts, String.toList_ofList, String.toList_ofList]
  exact h

theorem encard_placeholderCuts (template : String) :
    (placeholderCuts template).encard = placeholders template.toList := by
  have hinjective : Function.Injective (Prod.map String.toList String.toList) :=
    Function.Injective.prodMap (fun _ _ => String.toList_inj.1) (fun _ _ => String.toList_inj.1)
  have himage : Prod.map String.toList String.toList '' placeholderCuts template =
      cuts template.toList := by
    ext ⟨pre, post⟩
    constructor
    · rintro ⟨⟨pre', post'⟩, h, hcut⟩
      obtain ⟨rfl, rfl⟩ := Prod.mk.inj hcut
      exact mem_placeholderCuts.1 h
    · intro h
      refine ⟨(String.ofList pre, String.ofList post), ofList_mem_placeholderCuts h, ?_⟩
      rw [Prod.map_apply, String.toList_ofList, String.toList_ofList]
  rw [← hinjective.encard_image, himage, encard_cuts]

/-- The replaced text is what stood before and after some placeholder, with the column between. -/
theorem exists_placeholderCut (column : String) (h : placeholders template.toList ≠ 0) :
    ∃ cut ∈ placeholderCuts template,
      String.ofList (replaceFirst column.toList template.toList) = cut.1 ++ column ++ cut.2 := by
  obtain ⟨⟨pre, post⟩, hcut, hreplaced⟩ := exists_cut_of_placeholders h
  refine ⟨(String.ofList pre, String.ofList post), ofList_mem_placeholderCuts hcut, ?_⟩
  rw [hreplaced column.toList, String.ofList_append, String.ofList_append, String.ofList_toList]

theorem placeholders_eq_one_iff :
    placeholders template.toList = 1 ↔ ∃! cut, cut ∈ placeholderCuts template := by
  rw [← Set.singleton_iff_unique_mem, ← Set.encard_eq_one, encard_placeholderCuts, Nat.cast_eq_one]

theorem substitute_of_existsUnique (column : String)
    (h : ∃! cut, cut ∈ placeholderCuts template) :
    ∃ cut ∈ placeholderCuts template, substitute template column = .ok (cut.1 ++ column ++ cut.2) := by
  have hone := placeholders_eq_one_iff.2 h
  obtain ⟨cut, hcut, hreplaced⟩ := exists_placeholderCut column (hone ▸ Nat.one_ne_zero)
  refine ⟨cut, hcut, ?_⟩
  unfold substitute
  rw [if_pos hone, hreplaced]

theorem substitute_of_not_existsUnique (column : String)
    (h : ¬ ∃! cut, cut ∈ placeholderCuts template) :
    substitute template column = .error (.placeholders (placeholders template.toList) template) := by
  unfold substitute
  exact if_neg (mt placeholders_eq_one_iff.1 h)

/-- A template is filled exactly if there is one way to cut it, and then the column stands between the
two parts, as it is. Else the template is at fault, and its error tells how many ways there are. -/
theorem substitute_iff_existsUnique_cut (template column : String) :
    ((∃ expression, substitute template column = .ok expression) ↔
      ∃! cut, cut ∈ placeholderCuts template) ∧
    (∀ expression, substitute template column = .ok expression →
      ∀ cut ∈ placeholderCuts template, expression = cut.1 ++ column ++ cut.2) ∧
    ∀ e, substitute template column = .error e → ∃ count : ℕ,
      (placeholderCuts template).encard = count ∧ e = .placeholders count template ∧
      e.family.text = "InvalidTemplateError" ∧
      e.message = "Aggregation template must contain exactly one '%s' placeholder, found " ++
        toString count ++ ": " ++ Text.quote template := by
  by_cases hunique : ∃! cut, cut ∈ placeholderCuts template
  · obtain ⟨cut, hcut, hfilled⟩ := substitute_of_existsUnique column hunique
    rw [hfilled]
    refine ⟨iff_of_true ⟨_, rfl⟩ hunique, ?_, nofun⟩
    rintro _ ⟨⟩ cut' hcut'
    rw [hunique.unique hcut hcut']
  · rw [substitute_of_not_existsUnique column hunique]
    refine ⟨iff_of_false nofun hunique, nofun, ?_⟩
    rintro _ ⟨⟩
    exact ⟨_, encard_placeholderCuts template, rfl, rfl, rfl⟩

/-- A placeholder between percent signs, with a column that is one itself, and two placeholders next to
each other. -/
theorem substitute_iff_existsUnique_cut_adjacentMarks :
    substitute "sum(%%s%)" "%s" = .ok "sum(%%s%)" ∧
    (∃! cut, cut ∈ placeholderCuts "sum(%%s%)") ∧
    substitute "%s%s" "hits" = .error (.placeholders 2 "%s%s") ∧
    (placeholderCuts "%s%s").encard = 2 := by
  have hfilled : substitute "sum(%%s%)" "%s" = .ok "sum(%%s%)" := by decide
  have hrefused : substitute "%s%s" "hits" = .error (.placeholders 2 "%s%s") := by decide
  obtain ⟨hunique, -, -⟩ := substitute_iff_existsUnique_cut "sum(%%s%)" "%s"
  obtain ⟨-, -, hcounts⟩ := substitute_iff_existsUnique_cut "%s%s" "hits"
  obtain ⟨count, hcount, ⟨⟩, -⟩ := hcounts _ hrefused
  exact ⟨hfilled, hunique.1 ⟨_, hfilled⟩, hrefused, hcount⟩

end

end Yardstick
