import Yardstick.Text.Lines

/-!
# Lines that are read as they were written

Texts written one after the other, each with a line feed after it, are read as lines again if none of
them holds a character that ends a line. A line end in one of them makes more lines of it: as many
lines are read as were written exactly if there is none (`length_keptLines_eq_iff`).
-/

namespace Yardstick.Text

variable {c : Char} {s t line u : List Char} {lines : List (List Char)}

theorem isBlank_of_isLineEnd (h : isLineEnd c = true) : isBlank c = true := by
  simp only [isLineEnd, Bool.or_eq_true, Bool.and_eq_true, decide_eq_true_eq] at h
  simp only [isBlank, isWideSpace, isAsciiSpace, isForeignSpace, Bool.or_eq_true, Bool.and_eq_true,
    decide_eq_true_eq]
  omega

theorem unifyNewlines_of_not_mem (h : '\r' ∉ s) : unifyNewlines s = s := by
  induction s with
  | nil => rfl
  | cons c s ih =>
    rw [List.mem_cons, not_or] at h
    rw [unifyNewlines, if_neg (Ne.symm h.1), ih h.2]
    rintro rest rfl -
    exact h.1 rfl

/-! ## Cutting -/

theorem splitLinesFrom_cons (hc : c ≠ '\r') :
    splitLinesFrom line (c :: s) =
      if isLineEnd c then line.reverse :: splitLines s else splitLinesFrom (c :: line) s := by
  rw [splitLinesFrom]
  · rfl
  · rintro rest rfl -
    exact hc rfl

/-- Cutting starts afresh after a line feed. -/
theorem splitLinesFrom_append (hs : '\r' ∉ s) :
    splitLinesFrom line (s ++ '\n' :: t) = splitLinesFrom line (s ++ ['\n']) ++ splitLines t := by
  induction s generalizing line with
  | nil => rfl
  | cons c s ih =>
    rw [List.mem_cons, not_or] at hs
    rw [List.cons_append, List.cons_append, splitLinesFrom_cons (Ne.symm hs.1),
      splitLinesFrom_cons (Ne.symm hs.1)]
    split
    · rw [splitLines, splitLines, ih hs.2]
      rfl
    · exact ih hs.2

theorem splitLinesFrom_of_no_end (hs : ∀ c ∈ s, isLineEnd c = false) :
    splitLinesFrom line (s ++ ['\n']) = [line.reverse ++ s] := by
  induction s generalizing line with
  | nil => rw [List.append_nil]; rfl
  | cons c s ih =>
    rw [List.forall_mem_cons] at hs
    have hc : c ≠ '\r' := by
      rintro rfl
      exact absurd hs.1 (by decide)
    rw [List.cons_append, splitLinesFrom_cons hc, hs.1, if_neg Bool.false_ne_true, ih hs.2,
      List.reverse_cons, List.append_assoc, List.singleton_append]

/-! ## Keeping -/

/-- A line that is not dropped. -/
def isKept (line : List Char) : Bool := !line.all isBlank

theorem isKept_of_mem (hc : c ∈ line) (hblank : isBlank c = false) : isKept line = true := by
  unfold isKept
  rw [Bool.not_eq_true', List.all_eq_false]
  exact ⟨c, hc, by simp [hblank]⟩

theorem keptLines_append (hs : '\r' ∉ s) :
    keptLines (s ++ '\n' :: t) = keptLines (s ++ ['\n']) ++ keptLines t := by
  unfold keptLines
  rw [splitLines, splitLinesFrom_append hs, List.filter_append]
  rfl

/-- What is not blank is kept in some line. -/
theorem filter_isKept_ne_nil (hs : '\r' ∉ s) (hc : c ∈ line ∨ c ∈ s) (hblank : isBlank c = false) :
    (splitLinesFrom line (s ++ ['\n'])).filter isKept ≠ [] := by
  induction s generalizing line with
  | nil =>
    have hkept : isKept line.reverse = true :=
      isKept_of_mem (List.mem_reverse.2 (hc.resolve_right List.not_mem_nil)) hblank
    show [line.reverse].filter isKept ≠ []
    rw [List.filter_cons_of_pos hkept]
    exact List.cons_ne_nil _ _
  | cons d s ih =>
    rw [List.mem_cons, not_or] at hs
    rw [List.cons_append, splitLinesFrom_cons (Ne.symm hs.1)]
    split
    · next hend =>
      have hne : c ≠ d := by
        rintro rfl
        rw [isBlank_of_isLineEnd hend] at hblank
        cases hblank
      rcases hc with hc | hc
      · rw [List.filter_cons_of_pos (isKept_of_mem (List.mem_reverse.2 hc) hblank)]
        exact List.cons_ne_nil _ _
      · have hrest := @ih [] hs.2 (.inr ((List.mem_cons.1 hc).resolve_left hne))
        intro hnil
        rw [List.filter_cons] at hnil
        split at hnil
        · cases hnil
        · exact hrest hnil
    · refine ih hs.2 ?_
      rcases hc with hc | hc
      · exact .inl (List.mem_cons_of_mem _ hc)
      · rcases List.mem_cons.1 hc with rfl | hc
        · exact .inl List.mem_cons_self
        · exact .inr hc

/-! ## Framed lines -/

/-- A text to be a line: it starts and ends with something else than a blank, and no carriage return
is between. -/
def Framed (l : List Char) : Prop :=
  ∃ x u y, l = x :: (u ++ [y]) ∧ isBlank x = false ∧ isBlank y = false ∧ '\r' ∉ u

theorem ne_return_of_not_blank (hc : isBlank c = false) : '\r' ≠ c := by
  rintro rfl
  exact absurd hc (by decide)

theorem Framed.not_mem (h : Framed u) : '\r' ∉ u := by
  obtain ⟨x, u, y, rfl, hx, hy, hu⟩ := h
  rw [List.mem_cons, List.mem_append, List.mem_singleton, not_or, not_or]
  exact ⟨ne_return_of_not_blank hx, hu, ne_return_of_not_blank hy⟩

/-- A framed text without a line end is one line. -/
theorem Framed.keptLines_eq (h : Framed u) (hends : ∀ c ∈ u, isLineEnd c = false) :
    keptLines (u ++ ['\n']) = [u] := by
  obtain ⟨x, u, y, rfl, hx, -, -⟩ := h
  unfold keptLines splitLines
  rw [splitLinesFrom_of_no_end hends]
  exact List.filter_cons_of_pos (isKept_of_mem List.mem_cons_self hx)

/-- A line end within a frame leaves something before it and something after it. -/
theorem one_lt_length_filter (hx : ∃ x ∈ line, isBlank x = false) (hy : isBlank c = false)
    (hu : '\r' ∉ u) (hend : ∃ e ∈ u, isLineEnd e = true) :
    1 < ((splitLinesFrom line (u ++ [c] ++ ['\n'])).filter isKept).length := by
  induction u generalizing line with
  | nil => obtain ⟨e, he, -⟩ := hend; cases he
  | cons d u ih =>
    rw [List.mem_cons, not_or] at hu
    rw [List.cons_append, List.cons_append, splitLinesFrom_cons (Ne.symm hu.1)]
    split
    · obtain ⟨x, hx, hblank⟩ := hx
      have hreturn : '\r' ∉ u ++ [c] := by
        rw [List.mem_append, List.mem_singleton, not_or]
        exact ⟨hu.2, ne_return_of_not_blank hy⟩
      have hrest : (splitLines (u ++ [c] ++ ['\n'])).filter isKept ≠ [] :=
        filter_isKept_ne_nil hreturn (.inr (List.mem_append_right _ List.mem_cons_self)) hy
      rw [List.filter_cons_of_pos (isKept_of_mem (List.mem_reverse.2 hx) hblank), List.length_cons]
      have hpos := List.length_pos_iff.2 hrest
      omega
    · next hd =>
      obtain ⟨x, hx, hblank⟩ := hx
      obtain ⟨e, he, hee⟩ := hend
      refine ih ⟨x, List.mem_cons_of_mem _ hx, hblank⟩ hu.2 ⟨e, ?_, hee⟩
      rcases List.mem_cons.1 he with rfl | he
      · exact absurd hee hd
      · exact he

theorem Framed.one_lt_length_keptLines (h : Framed u) (hend : ∃ e ∈ u, isLineEnd e = true) :
    1 < (keptLines (u ++ ['\n'])).length := by
  obtain ⟨x, u, y, rfl, hx, hy, hu⟩ := h
  have hxend : ¬ isLineEnd x = true := fun h => by simp [isBlank_of_isLineEnd h] at hx
  have hyend : ¬ isLineEnd y = true := fun h => by simp [isBlank_of_isLineEnd h] at hy
  have hinner : ∃ e ∈ u, isLineEnd e = true := by
    obtain ⟨e, he, hee⟩ := hend
    simp only [List.mem_cons, List.mem_append, List.not_mem_nil, or_false] at he
    rcases he with rfl | he | rfl
    · exact absurd hee hxend
    · exact ⟨e, he, hee⟩
    · exact absurd hee hyend
  have hsplit : splitLines (x :: (u ++ [y]) ++ ['\n']) = splitLinesFrom [x] (u ++ [y] ++ ['\n']) := by
    show splitLinesFrom [] (x :: (u ++ [y] ++ ['\n'])) = _
    rw [splitLinesFrom_cons (Ne.symm (ne_return_of_not_blank hx)), if_neg hxend]
  unfold keptLines
  rw [hsplit]
  exact one_lt_length_filter ⟨x, List.mem_cons_self, hx⟩ hy hu hinner

theorem keptLines_flatMap (h : ∀ l ∈ lines, Framed l) :
    keptLines (lines.flatMap (· ++ ['\n'])) = lines.flatMap fun l => keptLines (l ++ ['\n']) := by
  induction lines with
  | nil => rfl
  | cons l lines ih =>
    rw [List.forall_mem_cons] at h
    rw [List.flatMap_cons, List.flatMap_cons, List.append_assoc, List.singleton_append,
      keptLines_append h.1.not_mem, ih h.2]

/-- Framed texts without line ends are read as the lines that they are. -/
theorem keptLines_eq_self (h : ∀ l ∈ lines, Framed l)
    (hends : ∀ l ∈ lines, ∀ c ∈ l, isLineEnd c = false) :
    keptLines (lines.flatMap (· ++ ['\n'])) = lines := by
  rw [keptLines_flatMap h]
  induction lines with
  | nil => rfl
  | cons l lines ih =>
    rw [List.forall_mem_cons] at h hends
    rw [List.flatMap_cons, h.1.keptLines_eq hends.1, ih h.2 hends.2]
    rfl

theorem Framed.keptLines_ne_nil (h : Framed u) : keptLines (u ++ ['\n']) ≠ [] := by
  have hreturn := h.not_mem
  obtain ⟨x, u, y, rfl, hx, -, -⟩ := h
  exact filter_isKept_ne_nil hreturn (.inr List.mem_cons_self) hx

theorem length_le_flatMap_keptLines (h : ∀ l ∈ lines, Framed l) :
    lines.length ≤ (lines.flatMap fun l => keptLines (l ++ ['\n'])).length := by
  induction lines with
  | nil => exact Nat.le_refl 0
  | cons l lines ih =>
    rw [List.forall_mem_cons] at h
    have hl := List.length_pos_iff.2 h.1.keptLines_ne_nil
    have hlines := ih h.2
    rw [List.flatMap_cons, List.length_append, List.length_cons]
    omega

theorem length_lt_flatMap_keptLines (h : ∀ l ∈ lines, Framed l)
    (hend : ∃ l ∈ lines, ∃ e ∈ l, isLineEnd e = true) :
    lines.length < (lines.flatMap fun l => keptLines (l ++ ['\n'])).length := by
  induction lines with
  | nil => obtain ⟨l, hl, -⟩ := hend; cases hl
  | cons l lines ih =>
    rw [List.forall_mem_cons] at h
    rw [List.flatMap_cons, List.length_append, List.length_cons]
    obtain ⟨l', hl', hend⟩ := hend
    rcases List.mem_cons.1 hl' with rfl | hl'
    · have hl := h.1.one_lt_length_keptLines hend
      have hlines := length_le_flatMap_keptLines h.2
      omega
    · have hl := List.length_pos_iff.2 h.1.keptLines_ne_nil
      have hlines := ih h.2 ⟨l', hl', hend⟩
      omega

/-- As many lines as were written are read only if none holds a line end. -/
theorem length_keptLines_eq_iff (h : ∀ l ∈ lines, Framed l) :
    (keptLines (lines.flatMap (· ++ ['\n']))).length = lines.length ↔
      ∀ l ∈ lines, ∀ c ∈ l, isLineEnd c = false := by
  constructor
  · intro hlength l hl c hc
    cases hend : isLineEnd c with
    | false => rfl
    | true =>
      have hlt := length_lt_flatMap_keptLines h ⟨l, hl, c, hc, hend⟩
      rw [keptLines_flatMap h] at hlength
      omega
  · intro hends
    rw [keptLines_eq_self h hends]

end Yardstick.Text
