import Mathlib.Data.List.Nodup
import Yardstick.Proofs.Outcome
import Yardstick.Session.Records

/-!
# Lines that hold no metric

A file of metrics is read line by line, up to the first line that holds no metric. Its failure names the
file and the line if the line is no JSON, no object or no record. A record that is no metric, and an
integer of too many digits, fail as they would anywhere else: so a file is read as a whole or reported by
a line exactly if its first bad line is neither (`Store.readMetrics_reports_iff`).
-/

namespace Yardstick

open Text

/-! ## One line -/

/-- The metric that a line holds. -/
def Metric.onLine? (line : String) : Option Metric :=
  (Record.ofLine line).toOption.bind fun r => r.toMetric.toOption

/-- The metric that a line holds, or why reading a file stops there. -/
def metricOfLine (path : String) (number : Nat) (line : String) : Except Failure Metric := do
  let record ← (Record.ofLine line).mapError (LineFault.failure path number)
  record.toMetric.mapError fun e => .fault (.error e)

section

variable {path line : String} {number : Nat} {r : Record} {fault : LineFault} {e : Error}

theorem metricOfLine_of_ok (h : Record.ofLine line = .ok r) :
    metricOfLine path number line = r.toMetric.mapError fun e => .fault (.error e) := by
  unfold metricOfLine
  rw [h]
  rfl

theorem metricOfLine_of_error (h : Record.ofLine line = .error fault) :
    metricOfLine path number line = .error (fault.failure path number) := by
  unfold metricOfLine
  rw [h]
  rfl

theorem toOption_metricOfLine (path : String) (number : Nat) (line : String) :
    (metricOfLine path number line).toOption = Metric.onLine? line := by
  unfold Metric.onLine?
  cases h : Record.ofLine line with
  | error fault => rw [metricOfLine_of_error h]; rfl
  | ok r =>
    rw [metricOfLine_of_ok h]
    cases hm : r.toMetric with
    | error e => simp [Except.toOption, Except.mapError, hm]
    | ok m => simp [Except.toOption, Except.mapError, hm]

theorem LineFault.failure_of_ne (h : ∀ digits, fault ≠ .malformed (.hugeInteger digits)) :
    fault.failure path number = .invalidLine path number fault := by
  unfold LineFault.failure
  split
  · next digits => exact absurd rfl (h digits)
  · rfl

/-- A line is named only if it is at fault as a document. -/
theorem exists_ofLine_of_invalidLine {shown : String} {n : Nat}
    (h : metricOfLine path number line = .error (.invalidLine shown n fault)) :
    ∃ fault, Record.ofLine line = .error fault ∧ ∀ digits, fault ≠ .malformed (.hugeInteger digits) := by
  cases hrecord : Record.ofLine line with
  | ok r =>
    rw [metricOfLine_of_ok hrecord] at h
    cases hmetric : r.toMetric <;> rw [hmetric] at h <;> cases h
  | error fault' =>
    refine ⟨fault', rfl, ?_⟩
    rintro digits rfl
    rw [metricOfLine_of_error hrecord] at h
    cases h

/-- A failure that is put down to a line starts with the place of the line. -/
theorem Failure.message_invalidLine (path : String) (number : Nat) (fault : LineFault) :
    ∃ reason, (Failure.invalidLine path number fault).message =
      s!"Invalid descriptor at {path}:{number}" ++ reason := by
  cases fault with
  | malformed f =>
    refine ⟨": " ++ f.message, ?_⟩
    rw [← String.append_assoc]
    rfl
  | notObject => exact ⟨": expected a JSON object", rfl⟩
  | issues is =>
    refine ⟨": " ++ issuesMark, ?_⟩
    rw [← String.append_assoc]
    rfl

end

/-! ## All lines -/

/-- Whether a line holds no metric. -/
def isUnusable (line : String) : Bool := (Metric.onLine? line).isNone

section

variable {path line : String} {number : Nat} {lines : List String}

theorem metricsOfLines_cons : metricsOfLines path number (line :: lines) =
    metricOfLine path number line >>= fun m =>
      metricsOfLines path (number + 1) lines >>= fun ms => .ok (m :: ms) := by
  rw [metricsOfLines]
  cases h : Record.ofLine line with
  | error fault => rw [metricOfLine_of_error h]; rfl
  | ok r => rw [metricOfLine_of_ok h]; rfl

theorem exists_metricOfLine (path : String) (number : Nat) (h : isUnusable line = false) :
    ∃ m, metricOfLine path number line = .ok m ∧ Metric.onLine? line = some m := by
  have hopt := toOption_metricOfLine path number line
  unfold isUnusable at h
  rw [← hopt] at h ⊢
  cases hm : metricOfLine path number line with
  | error f => rw [hm] at h; cases h
  | ok m => exact ⟨m, rfl, rfl⟩

theorem exists_fault_of_isUnusable (path : String) (number : Nat) (h : isUnusable line = true) :
    ∃ f, metricOfLine path number line = .error f := by
  have hopt := toOption_metricOfLine path number line
  unfold isUnusable at h
  rw [← hopt] at h
  cases hm : metricOfLine path number line with
  | error f => exact ⟨f, rfl⟩
  | ok m => rw [hm] at h; cases h

/-- Without a bad line, every line makes its metric. -/
theorem exists_metricsOfLines (path : String) (number : Nat) (h : lines.find? isUnusable = none) :
    ∃ ms, metricsOfLines path number lines = .ok ms ∧ lines.map Metric.onLine? = ms.map some := by
  induction lines generalizing number with
  | nil => exact ⟨[], rfl, rfl⟩
  | cons line lines ih =>
    rw [List.find?_cons] at h
    split at h
    · cases h
    · next husable =>
      obtain ⟨m, hm, honline⟩ := exists_metricOfLine path number husable
      obtain ⟨ms, hms, hmap⟩ := ih (number + 1) h
      refine ⟨m :: ms, ?_, ?_⟩
      · rw [metricsOfLines_cons, hm]
        show metricsOfLines path (number + 1) lines >>= _ = _
        rw [hms]
        rfl
      · rw [List.map_cons, List.map_cons, honline, hmap]

/-- Reading stops at the first bad line, with its failure and its number among the lines read. -/
theorem metricsOfLines_of_find? (path : String) (number : Nat) (h : lines.find? isUnusable = some line) :
    ∃ f, metricOfLine path (number + lines.findIdx isUnusable) line = .error f ∧
      metricsOfLines path number lines = .error f := by
  induction lines generalizing number with
  | nil => cases h
  | cons first lines ih =>
    rw [List.find?_cons] at h
    rw [List.findIdx_cons, metricsOfLines_cons]
    split at h
    · next hunusable =>
      obtain rfl := Option.some.inj h
      obtain ⟨f, hf⟩ := exists_fault_of_isUnusable path number hunusable
      refine ⟨f, ?_, by rw [hf]; rfl⟩
      rw [hunusable]
      exact hf
    · next husable =>
      obtain ⟨m, hm, -⟩ := exists_metricOfLine path number husable
      obtain ⟨f, hf, hrest⟩ := ih (number + 1) h
      rw [husable, hm]
      refine ⟨f, ?_, ?_⟩
      · rw [cond_false, ← Nat.add_assoc, Nat.add_right_comm]
        exact hf
      · show metricsOfLines path (number + 1) lines >>= _ = _
        rw [hrest]
        rfl

/-- The failure of the first bad line, if that does not depend on where the line is. -/
theorem metricsOfLines_eq_error {f : Failure} (h : lines.find? isUnusable = some line)
    (hf : ∀ number, metricOfLine path number line = .error f) :
    metricsOfLines path number lines = .error f := by
  obtain ⟨f', hf', hrun⟩ := metricsOfLines_of_find? path number h
  obtain rfl := Except.error.inj (hf'.symm.trans (hf _))
  exact hrun

end

/-! ## Files -/

section

variable {s : Store} {base : Base} {p : Path} {text : List Char}

theorem Store.readMetrics_of_readText (shown : String) (h : s.readText (base.resolve p) = .ok text) :
    s.readMetrics base p shown = metricsOfLines shown 1 ((keptLines text).map String.ofList) := by
  unfold readMetrics readLines
  rw [h]
  rfl

/-- A file of text is read as one metric for each line that is not blank, in order, or fails with a
message that starts with the file and the number of a line, exactly if its first line that holds no metric
is at fault as a document and not for an integer of too many digits. A record that a metric's own
requirements refuse fails as the metric does, and an integer of too many digits as such; neither failure
tells the file or the line. -/
theorem Store.readMetrics_reports_iff (shown : String) (h : s.readText (base.resolve p) = .ok text) :
    let lines := (keptLines text).map String.ofList
    (((∃ ms, s.readMetrics base p shown = .ok ms ∧ lines.map Metric.onLine? = ms.map some) ∨
        ∃ number fault reason, s.readMetrics base p shown = .error (.invalidLine shown number fault) ∧
          (Failure.invalidLine shown number fault).message =
            s!"Invalid descriptor at {shown}:{number}" ++ reason) ↔
      ∀ line, lines.find? isUnusable = some line →
        ∃ fault, Record.ofLine line = .error fault ∧ ∀ digits, fault ≠ .malformed (.hugeInteger digits)) ∧
    ∀ line, lines.find? isUnusable = some line →
      (∀ r e, Record.ofLine line = .ok r → r.toMetric = .error e →
        s.readMetrics base p shown = .error (.fault (.error e))) ∧
      ∀ digits, Record.ofLine line = .error (.malformed (.hugeInteger digits)) →
        s.readMetrics base p shown = .error (.hugeInteger digits) := by
  intro lines
  rw [Store.readMetrics_of_readText shown h]
  refine ⟨⟨?_, fun hdocument => ?_⟩, fun line hline =>
    ⟨fun r e hrecord hmetric => ?_, fun digits hrecord => ?_⟩⟩
  · intro hreported line hline
    obtain ⟨f, hf, hrun⟩ := metricsOfLines_of_find? shown 1 hline
    rcases hreported with ⟨ms, hms, -⟩ | ⟨number, fault, -, hfault, -⟩
    · cases hms.symm.trans hrun
    · obtain rfl := Except.error.inj (hrun.symm.trans hfault)
      exact exists_ofLine_of_invalidLine hf
  · cases hfind : lines.find? isUnusable with
    | none => exact .inl (exists_metricsOfLines shown 1 hfind)
    | some line =>
      obtain ⟨fault, hrecord, hne⟩ := hdocument line hfind
      obtain ⟨f, hf, hrun⟩ := metricsOfLines_of_find? shown 1 hfind
      rw [metricOfLine_of_error hrecord, LineFault.failure_of_ne hne] at hf
      obtain rfl := Except.error.inj hf
      obtain ⟨reason, hreason⟩ :=
        Failure.message_invalidLine shown (1 + lines.findIdx isUnusable) fault
      exact .inr ⟨_, fault, reason, hrun, hreason⟩
  · refine metricsOfLines_eq_error hline fun number => ?_
    rw [metricOfLine_of_ok hrecord, hmetric]
    rfl
  · exact metricsOfLines_eq_error hline fun number => metricOfLine_of_error hrecord

end

/-- A store with one file of lines. -/
def metricsFile (lines : List String) : Store :=
  ⟨[(⟨false, 0, ["metrics.jsonl"]⟩, .file (Utf8.encode ("\n".intercalate lines)))], ["root"]⟩

theorem readText_metricsFile (lines : List String) :
    (metricsFile lines).readText (Base.resolve none (.ofText "metrics.jsonl")) =
      .ok (unifyNewlines ("\n".intercalate lines).toList) := by
  have hplace : (metricsFile lines).locate (.ofText "metrics.jsonl") =
      .ok ⟨false, 0, ["metrics.jsonl"]⟩ := rfl
  have hread : (metricsFile lines).read (.ofText "metrics.jsonl") =
      .ok (Utf8.encode ("\n".intercalate lines)) := by
    unfold Store.read
    rw [hplace]
    rfl
  show (metricsFile lines).readText (.ofText "metrics.jsonl") = _
  unfold Store.readText
  rw [hread]
  show ((Utf8.decode (Utf8.encode ("\n".intercalate lines))).mapError Failure.encoding >>= _) = _
  rw [Utf8.decode_encode]
  rfl

/-- A metric, a blank line and a list. -/
def mixedLines : List String :=
  ["\x7b\"name\": \"n\", \"translatedName\": \"\", \"documentation\": \"\", \"categoryId\": \"c\", " ++
      "\"expression\": \"\"\x7d",
    " \t", "[1, 2]"]

/-- The list is reported. -/
theorem Store.readMetrics_reports_iff_mixedLines :
    (metricsFile mixedLines).readText (Base.resolve none (.ofText "metrics.jsonl")) =
        .ok (unifyNewlines ("\n".intercalate mixedLines).toList) ∧
      ∃ number fault reason, (metricsFile mixedLines).readMetrics none (.ofText "metrics.jsonl")
          "metrics.jsonl" = .error (.invalidLine "metrics.jsonl" number fault) ∧
        (Failure.invalidLine "metrics.jsonl" number fault).message =
          s!"Invalid descriptor at metrics.jsonl:{number}" ++ reason := by
  have htext := readText_metricsFile mixedLines
  have hfind : ((keptLines (unifyNewlines ("\n".intercalate mixedLines).toList)).map
      String.ofList).find? isUnusable = some "[1, 2]" := by decide +kernel
  have hreported := (Store.readMetrics_reports_iff "metrics.jsonl" htext).1.2 <| by
    intro line hline
    obtain rfl : "[1, 2]" = line := Option.some.inj (hfind.symm.trans hline)
    exact ⟨.notObject, rfl, nofun⟩
  refine ⟨htext, hreported.resolve_left ?_⟩
  rintro ⟨ms, -, hmap⟩
  have hnone : none ∈ ms.map some := hmap ▸ by decide +kernel
  simp at hnone

/-- A record without a name. -/
def namelessLine : String :=
  "\x7b\"name\": \"\", \"translatedName\": \"Visits\", \"documentation\": \"\", " ++
    "\"categoryId\": \"General\", \"expression\": \"count(*)\"\x7d"

/-- It fails as a metric without a name, and the message tells neither the file nor the line. -/
theorem Store.readMetrics_namelessLine :
    (metricsFile [namelessLine]).readText (Base.resolve none (.ofText "metrics.jsonl")) =
        .ok (unifyNewlines ("\n".intercalate [namelessLine]).toList) ∧
      ∃ f, (metricsFile [namelessLine]).readMetrics none (.ofText "metrics.jsonl") "metrics.jsonl" =
          .error f ∧ f.message = "Metric name must not be empty" ∧
        ¬ ∃ number reason, f.message =
          s!"Invalid descriptor at metrics.jsonl:{(number : Nat)}" ++ reason := by
  have hfault : metricsOfLines "metrics.jsonl" 1 ((keptLines (unifyNewlines
      ("\n".intercalate [namelessLine]).toList)).map String.ofList) =
        .error (.fault (.error .emptyName)) := by decide +kernel
  have htext := readText_metricsFile [namelessLine]
  have hrun := Store.readMetrics_of_readText "metrics.jsonl" htext
  rw [hfault] at hrun
  refine ⟨htext, _, hrun, rfl, ?_⟩
  rintro ⟨number, reason, hmessage⟩
  change "Metric name must not be empty" = _ at hmessage
  have hstart := congrArg (·.toList.head?) hmessage
  simp only [String.toList_append, toString, List.append_assoc] at hstart
  simp at hstart

end Yardstick
