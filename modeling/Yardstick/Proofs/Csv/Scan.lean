import Yardstick.Csv.Printer
import Yardstick.Csv.Row

/-!
# Reading written rows

The reader takes a written row for the cells that it was written from (`Scan.foldl_step_writeRow`), if no
cell holds a carriage return, which is written without quotes, and the row is not one cell of blanks, which
is taken for an empty line. The step is one cell: from its start to the comma or line end after it the
reader collects the text of the cell, quoted or not.
-/

namespace Yardstick.Csv

open Yardstick.Text

namespace Scan

variable {rows : List (List Word)} {row : List Word} {word w : Word} {mode : Mode} {c : Char} {lines : Nat}

/-! ## One cell -/

theorem step_of_ne {s : Scan} {c : Char} (h : s.mode ≠ .blanks) : s.step c = s.stepPlain c := by
  unfold step
  simp [h]

/-- Where the cell that is open is the last thing read. -/
inductive Ended (rows : List (List Word)) (row : List Word) (w : Word) (lines : Nat) : Scan → Prop
  | cellStart (h : w = []) : Ended rows row w lines ⟨rows, row, [], .cellStart, [], lines, none⟩
  | cell : Ended rows row w lines ⟨rows, row, w.reverse, .cell, [], lines, none⟩
  | quoteSeen : Ended rows row w lines ⟨rows, row, w.reverse, .quoteSeen, [], lines, none⟩

/-- Characters that neither end a cell nor are quotes. -/
def Plain (c : Char) : Prop := c ≠ '\n' ∧ c ≠ '\r' ∧ c ≠ ',' ∧ c ≠ '"'

theorem plain_of_not_needsQuotes (hquotes : needsQuotes w = false) (hreturn : '\r' ∉ w) :
    ∀ c ∈ w, Plain c := by
  intro c hc
  simp only [needsQuotes, List.any_eq_false, Bool.or_eq_true, not_or, decide_eq_true_eq] at hquotes
  obtain ⟨⟨hcomma, hquote⟩, hfeed⟩ := hquotes c hc
  exact ⟨hfeed, fun heq => hreturn (heq ▸ hc), hcomma, hquote⟩

theorem stepPlain_cell (h : Plain c) :
    stepPlain ⟨rows, row, word, .cell, [], lines, none⟩ c =
      ⟨rows, row, c :: word, .cell, [], lines, none⟩ := by
  obtain ⟨hfeed, hreturn, hcomma, -⟩ := h
  simp [stepPlain, stepCell, push, hfeed, hreturn, hcomma]

theorem stepPlain_cellStart (h : Plain c) :
    stepPlain ⟨rows, row, [], .cellStart, [], lines, none⟩ c =
      ⟨rows, row, [c], .cell, [], lines, none⟩ := by
  obtain ⟨hfeed, hreturn, hcomma, hquote⟩ := h
  simp [stepPlain, stepCellStart, stepCell, push, hfeed, hreturn, hcomma, hquote]

/-- Plain characters are collected, whether blanks are looked at or not. -/
theorem foldl_cell {f : Scan → Char → Scan} (hf : ∀ s c, s.mode ≠ .blanks → f s c = s.stepPlain c)
    (h : ∀ c ∈ w, Plain c) :
    w.foldl f ⟨rows, row, word, .cell, [], lines, none⟩ =
      ⟨rows, row, w.reverse ++ word, .cell, [], lines, none⟩ := by
  induction w generalizing word with
  | nil => rfl
  | cons c w ih =>
    rw [List.forall_mem_cons] at h
    rw [List.foldl_cons, hf _ _ (by simp), stepPlain_cell h.1, ih h.2, List.reverse_cons,
      List.append_assoc, List.singleton_append]

theorem foldl_cellStart {f : Scan → Char → Scan} (hf : ∀ s c, s.mode ≠ .blanks → f s c = s.stepPlain c)
    (h : ∀ d ∈ c :: w, Plain d) :
    (c :: w).foldl f ⟨rows, row, [], .cellStart, [], lines, none⟩ =
      ⟨rows, row, (c :: w).reverse, .cell, [], lines, none⟩ := by
  rw [List.forall_mem_cons] at h
  rw [List.foldl_cons, hf _ _ (by simp), stepPlain_cellStart h.1, foldl_cell hf h.2, List.reverse_cons]

theorem foldl_step_quoted :
    (doubleQuotes w).foldl step ⟨rows, row, word, .quoted, [], lines, none⟩ =
      ⟨rows, row, w.reverse ++ word, .quoted, [], lines, none⟩ := by
  induction w generalizing word with
  | nil => rfl
  | cons c w ih =>
    have hchar : (if c = '"' then ['"', '"'] else [c]).foldl step
        ⟨rows, row, word, .quoted, [], lines, none⟩ =
          ⟨rows, row, c :: word, .quoted, [], lines, none⟩ := by
      split
      · next h =>
        subst h
        rfl
      · next h =>
        rw [List.foldl_cons, step_of_ne (by simp)]
        simp [stepPlain, push, h]
    show ((if c = '"' then ['"', '"'] else [c]) ++ doubleQuotes w).foldl step _ = _
    rw [List.foldl_append, hchar, ih, List.reverse_cons, List.append_assoc, List.singleton_append]

/-- From the start of a cell to its end. -/
theorem ended_foldl_writeCell {alone : Bool} (h : '\r' ∉ w) :
    Ended rows row w lines
      ((writeCell alone w).foldl step ⟨rows, row, [], .cellStart, [], lines, none⟩) := by
  unfold writeCell
  split
  · rw [List.cons_append, List.foldl_cons, List.foldl_append]
    have hopen : step ⟨rows, row, [], .cellStart, [], lines, none⟩ '"' =
        ⟨rows, row, [], .quoted, [], lines, none⟩ := rfl
    rw [hopen, foldl_step_quoted, List.append_nil]
    exact .quoteSeen
  · next hquotes =>
    rw [Bool.or_eq_true, not_or, Bool.not_eq_true] at hquotes
    have hplain := plain_of_not_needsQuotes hquotes.1 h
    cases w with
    | nil => exact .cellStart rfl
    | cons c w =>
      rw [foldl_cellStart (fun _ _ => step_of_ne) hplain]
      exact .cell

theorem Ended.step_comma {s : Scan} (h : Ended rows row w lines s) :
    s.step ',' = ⟨rows, w :: row, [], .cellStart, [], lines, none⟩ := by
  cases h with
  | cellStart h => subst h; rfl
  | cell => simp [step, stepPlain, stepCell, endCell]
  | quoteSeen => simp [step, stepPlain, stepCell, endCell]

/-! ## One row -/

theorem fillUp_of_length {width : Nat} (h : width = row.length) : fillUp row width = row := by
  simp [fillUp, h]

theorem endRow_of_width (h : ∀ above ∈ rows, above.length = row.length) :
    endRow ⟨rows, row.reverse, [], mode, [], lines, none⟩ .rowStart =
      ⟨row :: rows, [], [], .rowStart, [], lines + 1, none⟩ := by
  match rows with
  | [] => simp [endRow]
  | [above] => simp [endRow, fillUp_of_length (h above List.mem_cons_self)]
  | above :: above' :: rows =>
    have habove := h above List.mem_cons_self
    simp [endRow, habove, fillUp_of_length rfl]

theorem Ended.step_feed {s : Scan} (h : Ended rows row w lines s)
    (hwidth : ∀ above ∈ rows, above.length = row.length + 1) :
    s.step '\n' = ⟨(w :: row).reverse :: rows, [], [], .rowStart, [], lines + 1, none⟩ := by
  have hend : s.step '\n' =
      endRow ⟨rows, (w :: row).reverse.reverse, [], .cellStart, [], lines, none⟩ .rowStart := by
    rw [List.reverse_reverse]
    cases h with
    | cellStart h => subst h; rfl
    | cell => simp [step, stepPlain, stepCell, endCell]
    | quoteSeen => simp [step, stepPlain, stepCell, endCell]
  rw [hend, endRow_of_width (by simpa using hwidth)]

/-- From the start of a cell to the end of its row. -/
theorem foldl_step_cells {alone : Bool} {cells : List Word} (hne : cells ≠ [])
    (hreturn : ∀ w ∈ cells, '\r' ∉ w) (hwidth : ∀ above ∈ rows, above.length = row.length + cells.length) :
    ([','].intercalate (cells.map (writeCell alone)) ++ ['\n']).foldl step
        ⟨rows, row, [], .cellStart, [], lines, none⟩ =
      ⟨(row.reverse ++ cells) :: rows, [], [], .rowStart, [], lines + 1, none⟩ := by
  induction cells generalizing row with
  | nil => exact absurd rfl hne
  | cons w cells ih =>
    rw [List.forall_mem_cons] at hreturn
    have hended : Ended rows row w lines
        ((writeCell alone w).foldl step ⟨rows, row, [], .cellStart, [], lines, none⟩) :=
      ended_foldl_writeCell hreturn.1
    cases cells with
    | nil =>
      rw [List.map_singleton, List.intercalate_singleton, List.foldl_append, List.foldl_cons,
        hended.step_feed hwidth, List.reverse_cons]
      rfl
    | cons w' cells =>
      rw [List.map_cons, List.map_cons, List.intercalate_cons_cons, List.append_assoc, List.append_assoc,
        List.foldl_append, List.singleton_append, List.foldl_cons, hended.step_comma, ← List.map_cons,
        ih (by simp) hreturn.2]
      · simp
      · intro above habove
        rw [hwidth above habove]
        simp [Nat.add_assoc, Nat.add_comm]

/-- A line with a character that is neither blank nor the end of the line. -/
def Opens (line : List Char) : Prop :=
  ∃ blanks c rest, line = blanks ++ c :: rest ∧ (∀ b ∈ blanks, isBlank b = true) ∧
    isBlank c = false ∧ c ≠ '\n' ∧ c ≠ '\r'

theorem plain_of_isBlank (h : isBlank c = true) : Plain c := by
  simp only [isBlank, Bool.or_eq_true, decide_eq_true_eq] at h
  rcases h with rfl | rfl <;> exact ⟨by decide, by decide, by decide, by decide⟩

theorem foldl_step_blanks {blanks : List Char} (h : ∀ b ∈ blanks, isBlank b = true) {skipped : List Char} :
    blanks.foldl step ⟨rows, [], [], .blanks, skipped, lines, none⟩ =
      ⟨rows, [], [], .blanks, blanks.reverse ++ skipped, lines, none⟩ := by
  induction blanks generalizing skipped with
  | nil => rfl
  | cons b blanks ih =>
    rw [List.forall_mem_cons] at h
    obtain ⟨hfeed, hreturn, -, -⟩ := plain_of_isBlank h.1
    have hstep : step ⟨rows, [], [], .blanks, skipped, lines, none⟩ b =
        ⟨rows, [], [], .blanks, b :: skipped, lines, none⟩ := by
      simp [step, stepPlain, stepBlank, h.1, hfeed, hreturn]
    rw [List.foldl_cons, hstep, ih h.2, List.reverse_cons, List.append_assoc, List.singleton_append]

/-- Blanks that start a line with text start its first cell. -/
theorem foldl_step_of_opens {line : List Char} (h : Opens line) :
    line.foldl step ⟨rows, [], [], .rowStart, [], lines, none⟩ =
      line.foldl step ⟨rows, [], [], .cellStart, [], lines, none⟩ := by
  obtain ⟨blanks, c, rest, rfl, hblanks, hc, hfeed, hreturn⟩ := h
  rw [List.foldl_append, List.foldl_append, List.foldl_cons, List.foldl_cons]
  refine congrArg (rest.foldl step) ?_
  cases blanks with
  | nil =>
    simp [step, stepPlain, stepRow, stepBlank, hc, hfeed, hreturn, stepCellStart, stepCell, endCell, push]
  | cons b blanks =>
    have hplain : ∀ d ∈ b :: blanks, Plain d := fun d hd => plain_of_isBlank (hblanks d hd)
    rw [List.forall_mem_cons] at hblanks
    have hstart : step ⟨rows, [], [], .rowStart, [], lines, none⟩ b =
        ⟨rows, [], [], .blanks, [b], lines, none⟩ := by
      simp [step, stepPlain, stepRow, stepBlank, hblanks.1, (hplain b List.mem_cons_self).1,
        (hplain b List.mem_cons_self).2.1]
    have hblanks' : ∀ skipped, step ⟨rows, [], [], .blanks, skipped, lines, none⟩ c =
        (openCell ⟨rows, [], [], .blanks, skipped, lines, none⟩).stepPlain c := by
      intro skipped
      unfold step
      rw [if_pos (by simp [hc, hfeed, hreturn])]
    have hopened : (⟨rows, [], [], .blanks, (b :: blanks).reverse, lines, none⟩ : Scan).openCell =
        ⟨rows, [], (b :: blanks).reverse, .cell, [], lines, none⟩ := by
      have hread : (⟨rows, [], [], .blanks, (b :: blanks).reverse, lines, none⟩ : Scan).readSkipped =
          ⟨rows, [], (b :: blanks).reverse, .cell, [], lines, none⟩ := by
        unfold readSkipped
        rw [List.reverse_reverse]
        exact foldl_cellStart (fun _ _ _ => rfl) hplain
      rw [openCell, hread]
      rfl
    rw [List.foldl_cons, hstart, foldl_step_blanks hblanks.2, ← List.reverse_cons,
      foldl_cellStart (fun _ _ => step_of_ne) hplain, hblanks', hopened]
    exact (step_of_ne (by simp)).symm

/-- A row that is read as it is written: it has cells, none of them with a carriage return, and is not
one cell of blanks. -/
structure Legible (row : List Word) : Prop where
  ne_nil : row ≠ []
  no_return : ∀ w ∈ row, '\r' ∉ w
  not_blank : ∀ w, row = [w] → (∀ c ∈ w, isBlank c = true) → w = []

instance : DecidablePred Legible := fun row =>
  decidable_of_iff (row ≠ [] ∧ (∀ w ∈ row, '\r' ∉ w) ∧
    ∀ w ∈ row, row = [w] → w.all isBlank = true → w = [])
    ⟨fun h => ⟨h.1, h.2.1, fun w hw hblank =>
        h.2.2 w (hw ▸ List.mem_singleton_self w) hw (List.all_eq_true.2 hblank)⟩,
      fun h => ⟨h.ne_nil, h.no_return, fun w _ hw hall => h.not_blank w hw (List.all_eq_true.1 hall)⟩⟩

/-- After the first cell stands a comma, or the line end if there are no others. -/
theorem exists_writeRow_cons (w : Word) (cells : List Word) : ∃ c rest,
    writeRow (w :: cells) = writeCell ((w :: cells).length = 1) w ++ c :: rest ∧
      (cells = [] ∧ c = '\n' ∨ cells ≠ [] ∧ c = ',') := by
  unfold writeRow
  cases cells with
  | nil => exact ⟨'\n', [], by simp, .inl ⟨rfl, rfl⟩⟩
  | cons w' cells =>
    rw [List.map_cons, List.map_cons, List.intercalate_cons_cons, List.append_assoc, List.append_assoc]
    exact ⟨_, _, rfl, .inr ⟨by simp, rfl⟩⟩

/-- The first character that is no blank is one of the first cell, or the comma after it. -/
theorem Legible.opens (h : Legible row) : Opens (writeRow row) := by
  obtain ⟨w, cells, rfl⟩ := List.exists_cons_of_ne_nil h.ne_nil
  obtain ⟨d, rest, hrest, hd⟩ := exists_writeRow_cons w cells
  rw [hrest]
  unfold writeCell
  split
  · exact ⟨[], '"', _, rfl, by simp, by decide, by decide, by decide⟩
  · next hquotes =>
    rw [Bool.or_eq_true, not_or, Bool.not_eq_true] at hquotes
    have hplain := plain_of_not_needsQuotes hquotes.1 (h.no_return w List.mem_cons_self)
    have hblanks : ∀ b ∈ w.takeWhile isBlank, isBlank b = true := List.all_eq_true.1 List.all_takeWhile
    cases htext : w.dropWhile isBlank with
    | cons c text =>
      have hc : isBlank c = false := by simpa [htext] using List.head?_dropWhile_not isBlank w
      have hw : w = w.takeWhile isBlank ++ c :: text := by rw [← htext, List.takeWhile_append_dropWhile]
      have hcplain := hplain c (hw ▸ by simp)
      refine ⟨w.takeWhile isBlank, c, text ++ d :: rest, ?_, hblanks, hc, hcplain.1, hcplain.2.1⟩
      rw [← List.cons_append, ← List.append_assoc, ← hw]
    | nil =>
      have hw : w.takeWhile isBlank = w := by
        simpa [htext] using List.takeWhile_append_dropWhile (p := isBlank) (l := w)
      rw [hw] at hblanks
      have hcells : cells ≠ [] := by
        rintro rfl
        have hempty := h.not_blank w rfl hblanks
        subst hempty
        simp at hquotes
      obtain ⟨-, rfl⟩ := hd.resolve_left fun hnil => hcells hnil.1
      exact ⟨w, ',', rest, rfl, hblanks, by decide, by decide, by decide⟩

theorem foldl_step_writeRow (h : Legible row) (hwidth : ∀ above ∈ rows, above.length = row.length) :
    (writeRow row).foldl step ⟨rows, [], [], .rowStart, [], lines, none⟩ =
      ⟨row :: rows, [], [], .rowStart, [], lines + 1, none⟩ := by
  rw [foldl_step_of_opens h.opens]
  exact foldl_step_cells h.ne_nil h.no_return (by simpa using hwidth)

/-! ## Characters -/

/-- All that has been read or passed over has a property of characters. -/
structure Holds (P : Char → Prop) (s : Scan) : Prop where
  rows : ∀ row ∈ s.rows, ∀ w ∈ row, ∀ c ∈ w, P c
  row : ∀ w ∈ s.row, ∀ c ∈ w, P c
  word : ∀ c ∈ s.word, P c
  skipped : ∀ c ∈ s.skipped, P c

section

variable {P : Char → Prop} {s inside text : Scan}

theorem Holds.endCell (h : s.Holds P) (next : Mode) : (s.endCell next).Holds P where
  rows := h.rows
  row := List.forall_mem_cons.2 ⟨fun c hc => h.word c (List.mem_reverse.1 hc), h.row⟩
  word := by simp [Scan.endCell]
  skipped := h.skipped

theorem Holds.fillUp (h : ∀ w ∈ row, ∀ c ∈ w, P c) (width : Nat) :
    ∀ w ∈ fillUp row width, ∀ c ∈ w, P c := by
  intro w hw
  rcases List.mem_append.1 hw with hw | hw
  · exact h w hw
  · rw [List.eq_of_mem_replicate hw]
    simp

theorem Holds.endRow (h : s.Holds P) (next : Mode) : (s.endRow next).Holds P := by
  have hrow : ∀ w ∈ s.row.reverse, ∀ c ∈ w, P c := fun w hw => h.row w (List.mem_reverse.1 hw)
  unfold Scan.endRow
  split
  · dsimp only
    split
    · exact ⟨h.rows, h.row, h.word, h.skipped⟩
    · exact ⟨List.forall_mem_cons.2 ⟨Holds.fillUp hrow _, h.rows⟩, by simp, h.word, by simp⟩
  · next above heq =>
    have hrows := heq ▸ h.rows
    exact ⟨List.forall_mem_cons.2 ⟨Holds.fillUp hrow _, hrows⟩, by simp, h.word, by simp⟩
  · exact ⟨by simpa using hrow, by simp, h.word, by simp⟩

theorem Holds.push (h : s.Holds P) (hc : P c) (next : Mode) : (s.push c next).Holds P :=
  ⟨h.rows, h.row, List.forall_mem_cons.2 ⟨hc, h.word⟩, h.skipped⟩

theorem Holds.stepCell (h : s.Holds P) (hinside : inside.Holds P) : (s.stepCell c inside).Holds P := by
  unfold Scan.stepCell
  split
  · exact (h.endCell _).endRow _
  split
  · exact (h.endCell _).endRow _
  split
  · exact h.endCell _
  · exact hinside

theorem Holds.stepCellStart (h : s.Holds P) (hc : P c) : (s.stepCellStart c).Holds P := by
  refine h.stepCell ?_
  split
  · exact ⟨h.rows, h.row, h.word, h.skipped⟩
  · exact h.push hc _

theorem Holds.stepBlank (h : s.Holds P) (hc : P c) (htext : text.Holds P) :
    (s.stepBlank c text).Holds P := by
  have hskipped : ∀ d ∈ c :: s.skipped, P d := List.forall_mem_cons.2 ⟨hc, h.skipped⟩
  unfold Scan.stepBlank
  split
  · exact ⟨h.rows, h.row, h.word, by simp⟩
  split
  · exact ⟨h.rows, h.row, h.word, hskipped⟩
  split
  · exact ⟨h.rows, h.row, h.word, hskipped⟩
  · exact htext

theorem Holds.stepPlain (h : s.Holds P) (hc : P c) : (s.stepPlain c).Holds P := by
  have hrow : (s.stepRow c).Holds P := h.stepBlank hc (h.stepCellStart hc)
  unfold Scan.stepPlain
  split
  · exact h
  split
  · exact hrow
  · split
    · exact ⟨h.rows, h.row, h.word, h.skipped⟩
    · exact hrow
  · split
    · exact ⟨h.rows, h.row, h.word, by simp⟩
    split
    · exact ⟨h.rows, h.row, h.word, List.forall_mem_cons.2 ⟨hc, h.skipped⟩⟩
    · exact hrow
  · exact h.stepBlank hc h
  · exact h.stepCellStart hc
  · exact h.stepCell (h.push hc _)
  · split
    · exact ⟨h.rows, h.row, h.word, h.skipped⟩
    · exact h.push hc _
  · exact h.stepCell (h.push hc _)

theorem Holds.foldl {f : Scan → Char → Scan} (hf : ∀ s c, s.Holds P → P c → (f s c).Holds P)
    {cs : List Char} (hcs : ∀ c ∈ cs, P c) (h : s.Holds P) : (cs.foldl f s).Holds P := by
  induction cs generalizing s with
  | nil => exact h
  | cons c cs ih =>
    rw [List.forall_mem_cons] at hcs
    exact ih hcs.2 (hf s c h hcs.1)

theorem Holds.readSkipped (h : s.Holds P) : s.readSkipped.Holds P :=
  Holds.foldl (fun _ _ hs hc => hs.stepPlain hc) (fun c hc => h.skipped c (List.mem_reverse.1 hc))
    ⟨h.rows, h.row, h.word, by simp⟩

theorem Holds.openCell (h : s.Holds P) : s.openCell.Holds P := by
  fun_induction Scan.openCell s with
  | case1 s opened hmode hless ih => exact ih h.readSkipped
  | case2 s opened hmode hless => exact h.readSkipped
  | case3 s opened hmode => exact h.readSkipped

theorem Holds.step (h : s.Holds P) (hc : P c) : (s.step c).Holds P := by
  unfold Scan.step
  split
  · exact h.openCell.stepPlain hc
  · exact h.stepPlain hc

theorem Holds.finish (h : s.Holds P) : s.finish.Holds P := by
  unfold Scan.finish
  split
  · exact h
  split
  · exact h
  · exact h
  · exact h
  · exact h
  · exact ⟨h.rows, h.row, h.word, h.skipped⟩
  · exact (h.endCell _).endRow _
  · exact (h.endCell _).endRow _
  · exact (h.endCell _).endRow _

end

end Scan

/-- The characters of the rows are characters of the file. -/
theorem forall_mem_readRows {P : Char → Prop} {cs : List Char} (h : ∀ c ∈ cs, P c) :
    ∀ row ∈ (readRows cs).rows, ∀ w ∈ row, ∀ c ∈ w, P c := by
  have hinitial : Scan.initial.Holds P := by constructor <;> simp [Scan.initial]
  have hscan := (Scan.Holds.foldl (fun _ _ hs hc => hs.step hc) h hinitial).finish
  exact fun row hrow => hscan.rows row (List.mem_reverse.1 hrow)

/-- Rows of one length are read back. -/
theorem readRows_writeRows {width : Nat} {rows : List (List Word)} (h : ∀ row ∈ rows, Scan.Legible row)
    (hwidth : ∀ row ∈ rows, row.length = width) : readRows (rows.flatMap writeRow) = ⟨rows, none⟩ := by
  have hscan : ∀ above lines, (∀ row ∈ above, row.length = width) →
      ∃ lines', (rows.flatMap writeRow).foldl Scan.step ⟨above, [], [], .rowStart, [], lines, none⟩ =
        ⟨rows.reverse ++ above, [], [], .rowStart, [], lines', none⟩ := by
    induction rows with
    | nil => exact fun above lines _ => ⟨lines, rfl⟩
    | cons row rows ih =>
      intro above lines habove
      rw [List.forall_mem_cons] at h hwidth
      have hrow : (writeRow row).foldl Scan.step ⟨above, [], [], .rowStart, [], lines, none⟩ =
          ⟨row :: above, [], [], .rowStart, [], lines + 1, none⟩ :=
        Scan.foldl_step_writeRow h.1 fun r hr => (habove r hr).trans hwidth.1.symm
      obtain ⟨lines', hrest⟩ := ih h.2 hwidth.2 (row :: above) (lines + 1) <| by
        rw [List.forall_mem_cons]
        exact ⟨hwidth.1, habove⟩
      refine ⟨lines', ?_⟩
      rw [List.flatMap_cons, List.foldl_append, hrow, hrest, List.reverse_cons, List.append_assoc,
        List.singleton_append]
  obtain ⟨lines', hrun⟩ := hscan [] 0 (by simp)
  unfold readRows Scan.initial
  rw [hrun]
  simp [Scan.finish]

end Yardstick.Csv
