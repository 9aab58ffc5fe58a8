import Yardstick.Proofs.Session.Faults
import Yardstick.Proofs.Text.Lines

/-!
# The number of a bad line

Lines are numbered after the blank ones have been dropped. So the number that a failure names is the
position of the first bad line among those that are not blank, and its position in the file exactly if no
blank line stands before it (`Store.readMetrics_number_iff`).
-/

namespace Yardstick

open Text

/-- The first line of a text that is neither blank nor the line of a metric, after the lines `before`. -/
structure FirstBad (text : List Char) (before : List (List Char)) (line : List Char) : Prop where
  splits : ∃ after, splitLines text = before ++ line :: after
  kept : isKept line = true
  unusable : isUnusable (String.ofList line) = true
  earlier : ∀ l ∈ before, isKept l = true → isUnusable (String.ofList l) = false

section

variable {text : List Char} {before : List (List Char)} {line : List Char}

theorem keptLines_eq_filter (text : List Char) : keptLines text = (splitLines text).filter isKept := rfl

theorem exists_firstBad {shown : String}
    (h : ((keptLines text).map String.ofList).find? isUnusable = some shown) :
    ∃ before line, FirstBad text before line ∧ String.ofList line = shown := by
  rw [List.find?_map, keptLines_eq_filter, List.find?_filter] at h
  obtain ⟨line, hline, rfl⟩ := Option.map_eq_some_iff.1 h
  obtain ⟨hbad, before, after, hsplits, hearlier⟩ := List.find?_eq_some_iff_append.1 hline
  rw [decide_eq_true_eq] at hbad
  refine ⟨before, line, ⟨⟨after, hsplits⟩, hbad.1, hbad.2, fun l hl hkept => ?_⟩, rfl⟩
  simpa [hkept] using hearlier l hl

/-- The lines that are not blank are counted. -/
theorem FirstBad.findIdx_eq (h : FirstBad text before line) :
    ((keptLines text).map String.ofList).findIdx isUnusable = before.countP isKept := by
  obtain ⟨after, hsplits⟩ := h.splits
  have hnone : ∀ l ∈ (before.filter isKept).map String.ofList, isUnusable l = false := by
    rw [List.forall_mem_map]
    intro l hl
    obtain ⟨hl, hkept⟩ := List.mem_filter.1 hl
    exact h.earlier l hl hkept
  rw [keptLines_eq_filter, hsplits, List.filter_append, List.filter_cons_of_pos h.kept, List.map_append,
    List.map_cons, List.findIdx_append, List.findIdx_eq_length_of_false hnone]
  simp [List.findIdx_cons, h.unusable, List.countP_eq_length_filter]

end

section

variable {s : Store} {base : Base} {p : Path} {path shown line : String} {number n : Nat}
  {fault : LineFault}

/-- A failure that names a line tells its number and what is wrong with it. -/
theorem eq_of_invalidLine (h : metricOfLine path n line = .error (.invalidLine shown number fault)) :
    number = n ∧ Record.ofLine line = .error fault := by
  cases hrecord : Record.ofLine line with
  | ok r =>
    rw [metricOfLine_of_ok hrecord] at h
    cases hmetric : r.toMetric <;> rw [hmetric] at h <;> cases h
  | error fault' =>
    rw [metricOfLine_of_error hrecord] at h
    unfold LineFault.failure at h
    split at h
    · cases h
    · cases h
      exact ⟨rfl, rfl⟩

/-- Only what a text holds is put down to a line. -/
theorem Store.exists_readText_of_invalidLine
    (h : s.readMetrics base p shown = .error (.invalidLine path number fault)) :
    ∃ text, s.readText (base.resolve p) = .ok text := by
  cases htext : s.readText (base.resolve p) with
  | ok text => exact ⟨text, rfl⟩
  | error f =>
    have hf : s.readMetrics base p shown = .error f := by
      unfold readMetrics readLines
      rw [htext]
      rfl
    obtain rfl := Except.error.inj (hf.symm.trans h)
    unfold readText at htext
    rcases bind_eq_error.1 htext with hread | ⟨bytes, -, htext⟩
    · cases hbytes : s.read (base.resolve p) with
      | ok bytes => rw [hbytes] at hread; cases hread
      | error a => rw [hbytes] at hread; cases a <;> cases hread
    · rcases bind_eq_error.1 htext with hdecode | ⟨_, -, htext⟩
      · cases hstring : Utf8.decode bytes <;> rw [hstring] at hdecode <;> cases hdecode
      · cases htext

/-- A failure that names the file and a line is about the first line of the file that is neither blank nor
the line of a metric. The number is that of this line without the blank ones before it, and so its
position in the file exactly if there are none. -/
theorem Store.readMetrics_number_iff
    (h : s.readMetrics base p shown = .error (.invalidLine shown number fault)) :
    ∃ text before line, s.readText (base.resolve p) = .ok text ∧ FirstBad text before line ∧
      Record.ofLine (String.ofList line) = .error fault ∧
      number = before.countP isKept + 1 ∧
      (number = before.length + 1 ↔ ∀ l ∈ before, isKept l = true) := by
  obtain ⟨text, htext⟩ := Store.exists_readText_of_invalidLine h
  rw [Store.readMetrics_of_readText shown htext] at h
  cases hfind : ((keptLines text).map String.ofList).find? isUnusable with
  | none =>
    obtain ⟨ms, hms, -⟩ := exists_metricsOfLines shown 1 hfind
    cases hms.symm.trans h
  | some bad =>
    obtain ⟨before, line, hfirst, rfl⟩ := exists_firstBad hfind
    obtain ⟨f, hf, hrun⟩ := metricsOfLines_of_find? shown 1 hfind
    obtain rfl := Except.error.inj (hrun.symm.trans h)
    obtain ⟨hnumber, hrecord⟩ := eq_of_invalidLine hf
    rw [hfirst.findIdx_eq, Nat.add_comm] at hnumber
    refine ⟨text, before, line, htext, hfirst, hrecord, hnumber, ?_⟩
    rw [hnumber, Nat.add_right_cancel_iff]
    exact List.countP_eq_length

end

/-- The line of a metric and a list. -/
def numberedLines : List String := mixedLines.take 1 ++ ["[1, 2]"]

/-- The list is on the second line, and without blank lines this is the number that is reported. -/
theorem Store.readMetrics_number_iff_numberedLines :
    ∃ number, (metricsFile numberedLines).readMetrics none (.ofText "metrics.jsonl") "metrics.jsonl" =
        .error (.invalidLine "metrics.jsonl" number .notObject) ∧
      ∃ text before line, (metricsFile numberedLines).readText (.ofText "metrics.jsonl") = .ok text ∧
        FirstBad text before line ∧ number = before.length + 1 := by
  have hlines : metricsOfLines "metrics.jsonl" 1 ((keptLines (unifyNewlines
      ("\n".intercalate numberedLines).toList)).map String.ofList) =
        .error (.invalidLine "metrics.jsonl" 2 .notObject) := by decide +kernel
  have hread := readText_metricsFile numberedLines
  have hrun := (Store.readMetrics_of_readText "metrics.jsonl" hread).trans hlines
  obtain ⟨text, before, line, htext, hfirst, -, -, hiff⟩ := Store.readMetrics_number_iff hrun
  refine ⟨2, hrun, text, before, line, htext, hfirst, hiff.2 fun l hl => ?_⟩
  obtain rfl := Except.ok.inj (hread.symm.trans htext)
  obtain ⟨after, hsplits⟩ := hfirst.splits
  have hkept : ∀ l ∈ splitLines (unifyNewlines ("\n".intercalate numberedLines).toList),
      isKept l = true := by decide +kernel
  exact hkept l (hsplits ▸ List.mem_append_left _ hl)

/-- A list after a blank line. -/
def spacedLines : List String := ["", "[1, 2]"]

/-- The list is on the second line of the file, which is the first that is neither blank nor the line of a
metric, and the failure names line 1. -/
theorem Store.readMetrics_spacedLines :
    (metricsFile spacedLines).readMetrics none (.ofText "metrics.jsonl") "metrics.jsonl" =
        .error (.invalidLine "metrics.jsonl" 1 .notObject) ∧
      ∃ text, (metricsFile spacedLines).readText (.ofText "metrics.jsonl") = .ok text ∧
        (splitLines text).map String.ofList = ["", "[1, 2]"] ∧ FirstBad text [[]] "[1, 2]".toList := by
  have hlines : metricsOfLines "metrics.jsonl" 1 ((keptLines (unifyNewlines
      ("\n".intercalate spacedLines).toList)).map String.ofList) =
        .error (.invalidLine "metrics.jsonl" 1 .notObject) := by decide +kernel
  have hread := readText_metricsFile spacedLines
  refine ⟨(Store.readMetrics_of_readText "metrics.jsonl" hread).trans hlines, _, hread, ?_, ?_⟩
  · decide +kernel
  · exact ⟨⟨[], by decide +kernel⟩, by decide +kernel, by decide +kernel, by decide +kernel⟩

end Yardstick
