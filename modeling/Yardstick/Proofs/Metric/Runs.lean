import Mathlib.Data.List.DropRight
import Yardstick.Proofs.Metric.Slug

/-!
# Runs of slug characters

`Slug.runs` finds the maximal runs of slug characters in a text (`maximalRuns_iff`). Texts that differ only
in other characters have the same runs (`MaximalRuns.congr`). Joining the runs by underscores comes to the
same as replacing each stretch of other characters by an underscore and trimming the ends (`trim_squeeze`).
-/

namespace Yardstick

namespace Slug

variable {c d : Char} {s t run : List Char} {rs rs' : List (List Char)}

/-- The maximal runs of slug characters in a text, in order. On both sides of a run is an end of the text or
another character. -/
inductive MaximalRuns : List Char → List (List Char) → Prop
  | nil : MaximalRuns [] []
  | other {c : Char} {s : List Char} {rs : List (List Char)} (hc : isSlugChar c = false)
      (hs : MaximalRuns s rs) : MaximalRuns (c :: s) rs
  | last {run : List Char} (hne : run ≠ []) (hrun : ∀ c ∈ run, isSlugChar c = true) :
      MaximalRuns run [run]
  | next {run : List Char} {c : Char} {s : List Char} {rs : List (List Char)} (hne : run ≠ [])
      (hrun : ∀ c ∈ run, isSlugChar c = true) (hc : isSlugChar c = false) (hs : MaximalRuns s rs) :
      MaximalRuns (run ++ c :: s) (run :: rs)

/-! ## Finding the runs -/

theorem runs_cons_other (hd : isSlugChar d = true) (hc : isSlugChar c = false) (s : List Char) :
    runs (d :: c :: s) = [d] :: runs s := by
  have hskip : runs (c :: s) = runs s := runs_of_not (Bool.eq_false_iff.1 hc)
  cases hruns : runs s with
  | nil => exact runs_of_runs_nil hd (hskip.trans hruns)
  | cons run more =>
    rw [runs_of_runs_cons hd (hskip.trans hruns), hc]
    rfl

theorem runs_run (hne : run ≠ []) (hrun : ∀ c ∈ run, isSlugChar c = true) : runs run = [run] := by
  induction run with
  | nil => exact absurd rfl hne
  | cons c run ih =>
    obtain ⟨hc, hrun⟩ := List.forall_mem_cons.1 hrun
    cases run with
    | nil => exact runs_of_runs_nil hc rfl
    | cons d run =>
      rw [runs_of_runs_cons hc (ih (List.cons_ne_nil d run) hrun), if_pos (hrun d List.mem_cons_self)]

theorem runs_run_append (hne : run ≠ []) (hrun : ∀ c ∈ run, isSlugChar c = true)
    (hc : isSlugChar c = false) (s : List Char) : runs (run ++ c :: s) = run :: runs s := by
  induction run with
  | nil => exact absurd rfl hne
  | cons d run ih =>
    obtain ⟨hd, hrun⟩ := List.forall_mem_cons.1 hrun
    cases run with
    | nil => exact runs_cons_other hd hc s
    | cons e run =>
      have hrest : runs (e :: (run ++ c :: s)) = (e :: run) :: runs s :=
        ih (List.cons_ne_nil e run) hrun
      show runs (d :: e :: (run ++ c :: s)) = _
      rw [runs_of_runs_cons hd hrest, if_pos (hrun e List.mem_cons_self)]

theorem MaximalRuns.runs_eq (h : MaximalRuns s rs) : runs s = rs := by
  induction h with
  | nil => rfl
  | other hc _ ih => exact (runs_of_not (Bool.eq_false_iff.1 hc)).trans ih
  | last hne hrun => exact runs_run hne hrun
  | next hne hrun hc _ ih => rw [runs_run_append hne hrun hc, ih]

/-- A slug character goes on with the run that comes after it, or is one alone. -/
theorem MaximalRuns.exists_cons (hc : isSlugChar c = true) (h : MaximalRuns s rs) :
    ∃ rs', MaximalRuns (c :: s) rs' := by
  cases h with
  | nil => exact ⟨_, .last (List.cons_ne_nil c []) (by simpa using hc)⟩
  | other hd hs => exact ⟨_, .next (List.cons_ne_nil c []) (by simpa using hc) hd hs⟩
  | last _ hrun => exact ⟨_, .last (List.cons_ne_nil c _) (List.forall_mem_cons.2 ⟨hc, hrun⟩)⟩
  | next _ hrun hd hs =>
    exact ⟨_, .next (List.cons_ne_nil c _) (List.forall_mem_cons.2 ⟨hc, hrun⟩) hd hs⟩

theorem exists_maximalRuns (s : List Char) : ∃ rs, MaximalRuns s rs := by
  induction s with
  | nil => exact ⟨[], .nil⟩
  | cons c s ih =>
    obtain ⟨rs, hrs⟩ := ih
    cases hc : isSlugChar c with
    | false => exact ⟨rs, .other hc hrs⟩
    | true => exact hrs.exists_cons hc

theorem maximalRuns_iff : MaximalRuns s rs ↔ runs s = rs := by
  refine ⟨MaximalRuns.runs_eq, ?_⟩
  rintro rfl
  obtain ⟨rs, hrs⟩ := exists_maximalRuns s
  rwa [hrs.runs_eq]

theorem maximalRuns_runs (s : List Char) : MaximalRuns s (runs s) := maximalRuns_iff.2 rfl

/-- Another character parts the runs before it from those after it. -/
theorem MaximalRuns.append (h : MaximalRuns s rs) (hc : isSlugChar c = false) (h' : MaximalRuns t rs') :
    MaximalRuns (s ++ c :: t) (rs ++ rs') := by
  induction h with
  | nil => exact .other hc h'
  | other hd _ ih => exact .other hd ih
  | last hne hrun => exact .next hne hrun hc h'
  | next hne hrun hd _ ih =>
    rw [List.append_assoc, List.cons_append]
    exact .next hne hrun hd ih

theorem runs_append (hc : isSlugChar c = false) (s t : List Char) :
    runs (s ++ c :: t) = runs s ++ runs t :=
  ((maximalRuns_runs s).append hc (maximalRuns_runs t)).runs_eq

theorem MaximalRuns.eq_nil_iff (h : MaximalRuns s rs) : rs = [] ↔ ∀ c ∈ s, isSlugChar c = false := by
  have hslug {run : List Char} (hne : run ≠ []) (hrun : ∀ c ∈ run, isSlugChar c = true) :
      ¬ ∀ c ∈ run, isSlugChar c = false := by
    obtain ⟨d, run, rfl⟩ := List.exists_cons_of_ne_nil hne
    intro hall
    exact absurd (hrun d List.mem_cons_self) (Bool.eq_false_iff.1 (hall d List.mem_cons_self))
  induction h with
  | nil => simp
  | other hc _ ih => simp [hc, ih]
  | last hne hrun => exact iff_of_false (List.cons_ne_nil _ _) (hslug hne hrun)
  | next hne hrun hc _ ih =>
    exact iff_of_false (List.cons_ne_nil _ _) fun hall => hslug hne hrun (List.forall_mem_append.1 hall).1

theorem runs_eq_nil_iff : runs s = [] ↔ ∀ c ∈ s, isSlugChar c = false := (maximalRuns_runs s).eq_nil_iff

/-! ## What a slug tells of a text -/

/-- The character, if a slug can hold it. -/
def slugChar? (c : Char) : Option Char := if isSlugChar c then some c else none

theorem slugChar?_eq_none : slugChar? c = none ↔ isSlugChar c = false := by
  unfold slugChar?
  split <;> simp [*]

theorem eq_of_slugChar?_eq (hc : isSlugChar c = true) (h : slugChar? c = slugChar? d) : d = c := by
  unfold slugChar? at h
  rw [if_pos hc] at h
  split at h
  · exact (Option.some.inj h).symm
  · cases h

theorem eq_of_map_slugChar?_eq (hrun : ∀ c ∈ run, isSlugChar c = true)
    (h : run.map slugChar? = t.map slugChar?) : t = run := by
  induction run generalizing t with
  | nil => exact List.map_eq_nil_iff.1 h.symm
  | cons c run ih =>
    obtain ⟨hc, hrun⟩ := List.forall_mem_cons.1 hrun
    obtain ⟨d, t, rfl, hd, ht⟩ := List.map_eq_cons_iff.1 h.symm
    rw [eq_of_slugChar?_eq hc hd.symm, ih hrun ht.symm]

/-- Texts that differ only in characters that no slug holds have the same runs. -/
theorem MaximalRuns.congr (h : MaximalRuns s rs) (hst : s.map slugChar? = t.map slugChar?) :
    MaximalRuns t rs := by
  have hother {c d : Char} (hc : isSlugChar c = false) (hcd : slugChar? d = slugChar? c) :
      isSlugChar d = false := slugChar?_eq_none.1 (hcd.trans (slugChar?_eq_none.2 hc))
  induction h generalizing t with
  | nil =>
    obtain rfl : t = [] := List.map_eq_nil_iff.1 hst.symm
    exact .nil
  | other hc _ ih =>
    obtain ⟨d, t, rfl, hd, ht⟩ := List.map_eq_cons_iff.1 hst.symm
    exact .other (hother hc hd) (ih ht.symm)
  | last hne hrun =>
    rw [eq_of_map_slugChar?_eq hrun hst]
    exact .last hne hrun
  | next hne hrun hc _ ih =>
    rw [List.map_append, List.map_cons] at hst
    obtain ⟨t₁, t₂, rfl, h₁, h₂⟩ := List.map_eq_append_iff.1 hst.symm
    obtain ⟨d, t, rfl, hd, ht⟩ := List.map_eq_cons_iff.1 h₂
    rw [eq_of_map_slugChar?_eq hrun h₁.symm]
    exact .next hne hrun (hother hc hd) (ih ht.symm)

/-! ## Joining the runs -/

theorem join_singleton (run : List Char) : join [run] = run := List.append_nil run

theorem join_cons (run : List Char) (hrs : rs ≠ []) : join (run :: rs) = run ++ '_' :: join rs := by
  obtain ⟨r, rs, rfl⟩ := List.exists_cons_of_ne_nil hrs
  rfl

theorem join_append (hrs : rs ≠ []) (hrs' : rs' ≠ []) :
    join (rs ++ rs') = join rs ++ '_' :: join rs' := by
  induction rs with
  | nil => exact absurd rfl hrs
  | cons run rs ih =>
    cases rs with
    | nil => rw [join_singleton, ← join_cons run hrs', List.singleton_append]
    | cons r rs =>
      have hne : r :: rs ≠ [] := List.cons_ne_nil r rs
      rw [List.cons_append, join_cons run (List.append_ne_nil_of_left_ne_nil hne rs'), ih hne,
        join_cons run hne, List.append_assoc, List.cons_append]

theorem join_runs_eq_nil_iff : join (runs s) = [] ↔ ∀ c ∈ s, isSlugChar c = false := by
  rw [← runs_eq_nil_iff]
  rcases valid_join_runs s with hnil | hvalid
  · rw [hnil]
    exact iff_of_true rfl rfl
  · refine iff_of_false hvalid.ne_nil fun hnil => hvalid.ne_nil ?_
    rw [hnil]
    rfl

/-- The runs of a slug joined again. -/
theorem Valid.join_runs (h : Valid s) : join (runs s) = s := by
  have hhead {s : List Char} (h : Valid s) : ∃ d t, s = d :: t ∧ isSlugChar d = true := by
    cases h with
    | single hc => exact ⟨_, _, rfl, hc⟩
    | cons hc _ => exact ⟨_, _, rfl, hc⟩
    | underscore hc _ => exact ⟨_, _, rfl, hc⟩
  have hruns {s : List Char} (h : Valid s) (ih : join (runs s) = s) : ∃ run more, runs s = run :: more := by
    refine List.exists_cons_of_ne_nil fun hnil => h.ne_nil ?_
    rw [← ih, hnil]
    rfl
  induction h with
  | single hc =>
    rw [runs_of_runs_nil hc rfl]
    rfl
  | cons hc hs ih =>
    obtain ⟨d, t, rfl, hd⟩ := hhead hs
    obtain ⟨run, more, hrs⟩ := hruns hs ih
    rw [runs_of_runs_cons hc hrs, if_pos hd, join_cons_cons, ← hrs, ih]
  | underscore hc hs ih =>
    obtain ⟨run, more, hrs⟩ := hruns hs ih
    rw [runs_cons_other hc (by decide), hrs, join_singleton_cons, ← hrs, ih]

/-! ## Replacing and trimming -/

/-- A text with each stretch of other characters replaced by one underscore. Inside a stretch that is
already done. -/
def squeeze : (inStretch : Bool) → List Char → List Char
  | _, [] => []
  | inStretch, c :: s =>
    if isSlugChar c then c :: squeeze false s
    else if inStretch then squeeze true s
    else '_' :: squeeze true s

/-- A text without the underscores at its ends. -/
def trim (s : List Char) : List Char := (s.dropWhile (· = '_')).rdropWhile (· = '_')

theorem squeeze_run_append (inStretch : Bool) (hne : run ≠ []) (hrun : ∀ c ∈ run, isSlugChar c = true)
    (s : List Char) : squeeze inStretch (run ++ s) = run ++ squeeze false s := by
  induction run generalizing inStretch with
  | nil => exact absurd rfl hne
  | cons c run ih =>
    obtain ⟨hc, hrun⟩ := List.forall_mem_cons.1 hrun
    rw [List.cons_append, squeeze, if_pos hc]
    cases run with
    | nil => rfl
    | cons d run => exact congrArg (c :: ·) (ih false (List.cons_ne_nil d run) hrun)

theorem squeeze_other (hc : isSlugChar c = false) (inStretch : Bool) (s : List Char) :
    squeeze inStretch (c :: s) = if inStretch then squeeze true s else '_' :: squeeze true s := by
  rw [squeeze, hc]
  rfl

/-- After an underscore come the joined runs, and one more underscore if the text ends with a stretch. -/
theorem MaximalRuns.squeeze_true (h : MaximalRuns s rs) :
    squeeze true s = join rs ∨ squeeze true s = join rs ++ ['_'] ∧ rs ≠ [] := by
  induction h with
  | nil => exact .inl rfl
  | other hc _ ih =>
    rw [squeeze_other hc]
    exact ih
  | @last run hne hrun =>
    have h := squeeze_run_append true hne hrun []
    rw [squeeze, List.append_nil] at h
    rw [join_singleton]
    exact .inl h
  | @next run c s rs hne hrun hc _ ih =>
    have h : squeeze true (run ++ c :: s) = run ++ '_' :: squeeze true s := by
      rw [squeeze_run_append true hne hrun, squeeze_other hc]
      rfl
    rw [h]
    by_cases hrs : rs = []
    · subst hrs
      have hnil : squeeze true s = [] := ih.resolve_right fun h => h.2 rfl
      rw [hnil, join_singleton]
      exact .inr ⟨rfl, List.cons_ne_nil _ _⟩
    · rw [join_cons run hrs]
      rcases ih with ih | ⟨ih, -⟩
      · exact .inl (by rw [ih])
      · exact .inr ⟨by rw [ih, List.append_assoc, List.cons_append], List.cons_ne_nil _ _⟩

theorem squeeze_false (s : List Char) :
    squeeze false s = squeeze true s ∨ squeeze false s = '_' :: squeeze true s := by
  cases s with
  | nil => exact .inl rfl
  | cons c s =>
    cases hc : isSlugChar c with
    | false =>
      rw [squeeze_other hc, squeeze_other hc]
      exact .inr rfl
    | true =>
      rw [squeeze, squeeze, hc]
      exact .inl rfl

theorem trim_cons_underscore (s : List Char) : trim ('_' :: s) = trim s := rfl

theorem Valid.trim_append (h : Valid s) (hend : t = [] ∨ t = ['_']) : trim (s ++ t) = s := by
  have hdrop : (s ++ t).dropWhile (· = '_') = s ++ t := by
    have hfirst {c : Char} (hc : isSlugChar c = true) (s : List Char) :
        (c :: s).dropWhile (· = '_') = c :: s := by
      refine List.dropWhile_cons_of_neg ?_
      rw [decide_eq_true_iff]
      rintro rfl
      exact absurd hc (by decide)
    cases h with
    | single hc => exact hfirst hc _
    | cons hc _ => exact hfirst hc _
    | underscore hc _ => exact hfirst hc _
  have hlast : s.rdropWhile (· = '_') = s := by
    refine List.rdropWhile_eq_self_iff.2 fun hne hunderscore => ?_
    rw [decide_eq_true_iff] at hunderscore
    refine h.ne_append_underscore s.dropLast ?_
    rw [← hunderscore, List.dropLast_append_getLast]
  unfold trim
  rw [hdrop]
  rcases hend with rfl | rfl
  · rw [List.append_nil, hlast]
  · rw [List.rdropWhile_concat_pos _ _ _ (by decide), hlast]

/-- Replacing the stretches and trimming the ends leaves the runs, joined by single underscores. -/
theorem trim_squeeze (s : List Char) : trim (squeeze false s) = join (runs s) := by
  have hinside : trim (squeeze true s) = join (runs s) := by
    rcases (maximalRuns_runs s).squeeze_true, valid_join_runs s with ⟨h | ⟨h, hne⟩, hnil | hvalid⟩
    · rw [h, hnil]
      rfl
    · rw [h]
      simpa using hvalid.trim_append (.inl rfl)
    · exact absurd hnil hne
    · rw [h]
      exact hvalid.trim_append (.inr rfl)
  rcases squeeze_false s with h | h
  · rw [h, hinside]
  · rw [h, trim_cons_underscore, hinside]

end Slug

end Yardstick
