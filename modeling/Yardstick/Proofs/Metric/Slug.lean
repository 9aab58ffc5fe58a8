import Yardstick.Metric.Name

/-!
# Slugs

The slug of a text consists of words of slug characters, joined by single underscores, or is empty
(`Slug.valid_join_runs`). So the slug of a dimension is not empty, and no underscore stands at its end.
-/

namespace Yardstick

namespace Slug

/-- Words of slug characters joined by single underscores. -/
inductive Valid : List Char → Prop
  | single {c : Char} : isSlugChar c = true → Valid [c]
  | cons {c : Char} {s : List Char} : isSlugChar c = true → Valid s → Valid (c :: s)
  | underscore {c : Char} {s : List Char} : isSlugChar c = true → Valid s → Valid (c :: '_' :: s)

variable {s : List Char}

theorem Valid.ne_nil (h : Valid s) : s ≠ [] := by
  cases h <;> exact List.cons_ne_nil _ _

theorem Valid.ne_append_underscore (h : Valid s) (t : List Char) : s ≠ t ++ ['_'] := by
  induction h generalizing t with
  | single hc =>
    intro heq
    have hlists : [] ++ [_] = t ++ ['_'] := heq
    obtain ⟨-, hlast⟩ := List.append_inj' hlists rfl
    cases hlast
    exact absurd hc (by decide)
  | cons hc hs ih =>
    intro heq
    cases t with
    | nil => exact hs.ne_nil (List.cons.inj heq).2
    | cons d t => exact ih t (List.cons.inj heq).2
  | underscore hc hs ih =>
    intro heq
    match t with
    | [] => cases heq
    | [d] => exact hs.ne_nil (List.cons.inj (List.cons.inj heq).2).2
    | _ :: _ :: t => exact ih t (List.cons.inj (List.cons.inj heq).2).2

/-! ## Runs -/

theorem join_cons_cons (c : Char) (run : List Char) (more : List (List Char)) :
    join ((c :: run) :: more) = c :: join (run :: more) := by
  cases more <;> rfl

theorem join_singleton_cons (c : Char) (run : List Char) (more : List (List Char)) :
    join ([c] :: run :: more) = c :: '_' :: join (run :: more) := rfl

section

variable {c d : Char} {rest run : List Char} {more : List (List Char)}

theorem runs_of_not (hc : ¬ isSlugChar c = true) : runs (c :: rest) = runs rest := by
  conv => lhs; unfold runs
  rw [if_neg hc]

theorem runs_of_runs_nil (hc : isSlugChar c = true) (h : runs rest = []) :
    runs (c :: rest) = [[c]] := by
  unfold runs
  rw [if_pos hc, h]
  cases rest <;> rfl

/-- The character after a slug character decides whether that goes on with a run or is one alone. -/
theorem runs_of_runs_cons (hc : isSlugChar c = true) (h : runs (d :: rest) = run :: more) :
    runs (c :: d :: rest) =
      if isSlugChar d = true then (c :: run) :: more else [c] :: run :: more := by
  conv => lhs; unfold runs
  rw [if_pos hc, h]

end

theorem valid_join_runs (s : List Char) : runs s = [] ∨ Valid (join (runs s)) := by
  induction s with
  | nil => exact .inl rfl
  | cons c rest ih =>
    by_cases hc : isSlugChar c = true
    · refine .inr ?_
      cases hruns : runs rest with
      | nil =>
        rw [runs_of_runs_nil hc hruns]
        exact .single hc
      | cons run more =>
        have hvalid : Valid (join (run :: more)) := by
          rw [hruns] at ih
          exact ih.resolve_left (List.cons_ne_nil _ _)
        cases rest with
        | nil => cases hruns
        | cons d tail =>
          rw [runs_of_runs_cons hc hruns]
          split
          · rw [join_cons_cons]
            exact .cons hc hvalid
          · rw [join_singleton_cons]
            exact .underscore hc hvalid
    · rw [runs_of_not hc]
      exact ih

theorem valid_ofChars (h : ofChars s ≠ []) : Valid (ofChars s) := by
  unfold ofChars at h ⊢
  rcases valid_join_runs (Text.lower s) with hnil | hvalid
  · rw [hnil] at h
    exact absurd rfl h
  · exact hvalid

end Slug

theorem valid_of_slug {module id s : String} (h : slug module id = .ok s) : Slug.Valid s.toList := by
  unfold slug at h
  simp only at h
  split at h
  · cases h
  · next hne =>
    cases h
    rw [String.toList_ofList]
    simp only [Bool.or_eq_true, decide_eq_true_eq, List.isEmpty_iff, not_or] at hne
    exact Slug.valid_ofChars hne.2

end Yardstick
