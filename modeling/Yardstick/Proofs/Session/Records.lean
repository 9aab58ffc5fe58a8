import Yardstick.Proofs.Json.Characters
import Yardstick.Proofs.Schema.Record
import Yardstick.Proofs.Session.Work
import Yardstick.Proofs.Store.Write
import Yardstick.Proofs.Text.Lines
import Yardstick.Session.Records

/-!
# Reading metrics back from a file

The line of a metric reads as its record (`Record.ofLine_line`). A file of metrics is read back as long
as no line is cut in two, and three characters that end a line when it is read are not escaped when it
is written: a file is read back exactly if no text of its metrics holds one of them
(`metricsOfLines_keptLines_iff`).
-/

namespace Yardstick

open Text

/-! ## Lines of metrics -/

section

variable (m : Metric)

/-- The keys of a record, which are different and plain. -/
theorem Record.keys_toMembers :
    (((ofMetric m).toMembers .camel).map (·.1)).Nodup ∧
      ∀ e ∈ (ofMetric m).toMembers .camel, e.1.toList.all Json.isPlain = true := by
  have hall : ∀ keys ∈ [["type", "name", "translatedName", "documentation", "categoryId", "expression",
      "aggregationKind"], ["type", "name", "translatedName", "documentation", "categoryId", "formulaKind",
      "dependencyNames"]], keys.Nodup ∧ ∀ key ∈ keys, key.toList.all Json.isPlain = true := by
    decide
  have hkeys := hall (((ofMetric m).toMembers .camel).map (·.1)) <| by
    cases m with
    | base m => exact List.mem_cons_self
    | computed m => exact List.mem_cons_of_mem _ List.mem_cons_self
  exact ⟨hkeys.1, fun e he => hkeys.2 e.1 (List.mem_map_of_mem he)⟩

theorem Record.reads_toMembers : Json.Reads (.obj ((ofMetric m).toMembers .camel)) := by
  refine Json.reads_obj (Record.keys_toMembers m).1 ?_
  cases m with
  | base m =>
    have haggregation : Json.Reads (Schema.optionalText (m.aggregation.map Aggregation.text)) := by
      cases m.aggregation with
      | none => exact Json.reads_null
      | some a => exact Json.reads_str a.text
    simp [ofMetric, toMembers, BaseRecord.toMembers, Json.reads_str, haggregation]
  | computed m =>
    have hdependencies : Json.Reads (.arr (m.dependencies.map .str)) := by
      refine Json.reads_arr fun v hv => ?_
      obtain ⟨d, -, rfl⟩ := List.mem_map.1 hv
      exact Json.reads_str d
    simp [ofMetric, toMembers, ComputedRecord.toMembers, Json.reads_str, hdependencies]

/-- The line of a metric holds its record. -/
theorem Record.ofLine_line : Record.ofLine m.line = .ok (Record.ofMetric m) := by
  unfold Record.ofLine Metric.line
  rw [(Record.reads_toMembers m).parse_render]
  show ((Record.ofMembers _).mapError LineFault.issues) = _
  rw [Record.ofMembers_toMembers]
  rfl

end

/-- The texts that a metric is given. -/
def Metric.texts : Metric → List String
  | base m => [m.name, m.label, m.documentation, m.category, m.expression]
  | computed m => [m.name, m.label, m.documentation, m.category, m.numerator, m.denominator]

/-- No text of the metric holds a character that ends a line and is not escaped. -/
def Metric.OnOneLine (m : Metric) : Prop :=
  ∀ s ∈ m.texts, ∀ c ∈ s.toList, c.toNat ≠ 0x85 ∧ c.toNat ≠ 0x2028 ∧ c.toNat ≠ 0x2029

instance : DecidablePred Metric.OnOneLine := fun m =>
  decidable_of_iff (m.texts.all fun s => s.toList.all fun c =>
    c.toNat ≠ 0x85 ∧ c.toNat ≠ 0x2028 ∧ c.toNat ≠ 0x2029) (by simp [Metric.OnOneLine])

theorem Aggregation.isPlain_text (a : Aggregation) : a.text.toList.all Json.isPlain = true := by
  cases a <;> decide

theorem Formula.isPlain_text (f : Formula) : f.text.toList.all Json.isPlain = true := by
  cases f <;> decide

/-- Apart from the texts of its metric, a line is ASCII. -/
theorem Metric.forall_mem_line {P : Char → Prop} (hP : ∀ c, Json.isPlain c = true → P c) (m : Metric) :
    (∀ c ∈ m.line.toList, P c) ↔ ∀ s ∈ m.texts, ∀ c ∈ s.toList, 0x20 ≤ c.toNat → P c := by
  have hword (s : String) (hs : s.toList.all Json.isPlain = true) : ∀ c ∈ Json.print (.str s), P c :=
    (Json.forall_mem_print_str hP s).2 fun c hc _ => hP c (List.all_eq_true.1 hs c hc)
  unfold Metric.line Json.render
  rw [String.toList_ofList, Json.forall_mem_print_obj hP _ (Record.keys_toMembers m).2]
  cases m with
  | base m =>
    have htype := hword Record.baseType (by decide)
    have haggregation : ∀ c ∈ Json.print (Schema.optionalText (m.aggregation.map Aggregation.text)),
        P c := by
      cases m.aggregation with
      | none =>
        have hnull : (Json.print .null).all Json.isPlain = true := by decide
        exact fun c hc => hP c (List.all_eq_true.1 hnull c hc)
      | some a => exact hword a.text a.isPlain_text
    simp only [Record.ofMetric, Record.toMembers, BaseRecord.toMembers, Metric.texts,
      List.forall_mem_cons, List.not_mem_nil, false_implies, implies_true, and_true,
      Json.forall_mem_print_str hP] at htype ⊢
    constructor
    · rintro ⟨-, hname, hlabel, hdocumentation, hcategory, hexpression, -⟩
      exact ⟨hname, hlabel, hdocumentation, hcategory, hexpression⟩
    · rintro ⟨hname, hlabel, hdocumentation, hcategory, hexpression⟩
      exact ⟨htype, hname, hlabel, hdocumentation, hcategory, hexpression, haggregation⟩
  | computed m =>
    have htype := hword Record.computedType (by decide)
    have hformula := hword m.formula.text m.formula.isPlain_text
    simp only [Record.ofMetric, Record.toMembers, ComputedRecord.toMembers, Metric.texts,
      ComputedMetric.dependencies, List.map_cons, List.map_nil, List.forall_mem_cons,
      List.not_mem_nil, false_implies, implies_true, and_true, Json.forall_mem_print_str hP,
      Json.forall_mem_print_arr hP] at htype hformula ⊢
    constructor
    · rintro ⟨-, hname, hlabel, hdocumentation, hcategory, -, hnumerator, hdenominator⟩
      exact ⟨hname, hlabel, hdocumentation, hcategory, hnumerator, hdenominator⟩
    · rintro ⟨hname, hlabel, hdocumentation, hcategory, hnumerator, hdenominator⟩
      exact ⟨htype, hname, hlabel, hdocumentation, hcategory, hformula, hnumerator, hdenominator⟩

/-- The line of a metric is one line, if the metric's texts leave it one. -/
theorem Metric.forall_isLineEnd_line_iff (m : Metric) :
    (∀ c ∈ m.line.toList, isLineEnd c = false) ↔ m.OnOneLine := by
  have hcut (c : Char) (hc : 0x20 ≤ c.toNat) :
      isLineEnd c = false ↔ c.toNat ≠ 0x85 ∧ c.toNat ≠ 0x2028 ∧ c.toNat ≠ 0x2029 := by
    simp only [isLineEnd, Bool.or_eq_false_iff, Bool.and_eq_false_iff, decide_eq_false_iff_not]
    omega
  have hplain (c : Char) (hc : Json.isPlain c = true) : isLineEnd c = false := by
    simp only [Json.isPlain, Bool.and_eq_true, decide_eq_true_eq] at hc
    exact (hcut c hc.1).2 (by omega)
  rw [Metric.forall_mem_line hplain]
  refine forall₂_congr fun s _ => forall₂_congr fun c _ => ?_
  constructor
  · intro h
    by_cases hc : 0x20 ≤ c.toNat
    · exact (hcut c hc).1 (h hc)
    · omega
  · exact fun h hc => (hcut c hc).2 h

/-- No character of a line is a control. -/
theorem Metric.printable_line (m : Metric) : ∀ c ∈ m.line.toList, 0x20 ≤ c.toNat := by
  refine (Metric.forall_mem_line (fun c hc => ?_) m).2 fun _ _ _ _ h => h
  simp only [Json.isPlain, Bool.and_eq_true, decide_eq_true_eq] at hc
  exact hc.1

theorem Metric.framed_line (m : Metric) : Framed m.line.toList := by
  have hline : m.line.toList =
      '\x7b' :: (Json.printMembers ((Record.ofMetric m).toMembers .camel) ++ ['\x7d']) := by
    rw [Metric.line, Json.render, String.toList_ofList]
    rfl
  refine ⟨_, _, _, hline, rfl, rfl, fun hreturn => ?_⟩
  have hlow := m.printable_line '\r' (hline ▸ List.mem_cons_of_mem _ (List.mem_append_left _ hreturn))
  revert hlow
  decide

/-! ## Files of metrics -/

variable {ms : List Metric} {path : String}

theorem metricsOfLines_map_line (ms : List Metric) (number : Nat) :
    metricsOfLines path number (ms.map Metric.line) = .ok ms := by
  induction ms generalizing number with
  | nil => rfl
  | cons m ms ih =>
    rw [List.map_cons, metricsOfLines, Record.ofLine_line]
    show ((Record.ofMetric m).toMetric.mapError _ >>= _) = _
    rw [Record.toMetric_ofMetric]
    show (metricsOfLines path (number + 1) (ms.map Metric.line) >>= _) = _
    rw [ih]
    rfl

theorem recordsText_append (ms ms' : List Metric) :
    recordsText (ms ++ ms') = recordsText ms ++ recordsText ms' := by
  induction ms with
  | nil => exact String.empty_append.symm
  | cons m ms ih =>
    show m.line ++ "\n" ++ recordsText (ms ++ ms') = m.line ++ "\n" ++ recordsText ms ++ recordsText ms'
    rw [ih, ← String.append_assoc]

/-- Each metric has a line of its own in a file, without a feed or a return in it. The line is a JSON object
whose type tells the two kinds of metric apart, and the record that the object makes is that of the same
metric. -/
theorem Metric.line_roundTrip (m : Metric) :
    (∀ before after, recordsText (before ++ m :: after) =
      recordsText before ++ (m.line ++ "\n" ++ recordsText after)) ∧
    ('\n' ∉ m.line.toList ∧ '\r' ∉ m.line.toList) ∧
    (∃ members, Json.parse m.line = .ok (.obj members) ∧
      (members.lookup Record.typeKey.camel = some (.str Record.computedType) ↔
        m.computed?.isSome = true) ∧
      ∃ record, Record.ofMembers members = .ok record ∧ record.toMetric = .ok m) ∧
    ∀ path number, metricsOfLines path number [m.line] = .ok [m] := by
  have hlow {c : Char} (hc : c.toNat < 0x20) : c ∉ m.line.toList := fun h =>
    absurd (m.printable_line c h) (Nat.not_le_of_lt hc)
  refine ⟨fun before after => recordsText_append before (m :: after),
    ⟨hlow (by decide), hlow (by decide)⟩, ?_, fun path number => metricsOfLines_map_line [m] number⟩
  refine ⟨(Record.ofMetric m).toMembers .camel, (Record.reads_toMembers m).parse_render, ?_,
    Record.ofMetric m, Record.ofMembers_toMembers m .camel, Record.toMetric_ofMetric m⟩
  have hkinds : Record.baseType ≠ Record.computedType := by decide
  cases m with
  | base m =>
    refine iff_of_false (fun htype => hkinds ?_) nofun
    exact Json.str.inj (Option.some.inj htype)
  | computed m => exact iff_of_true rfl rfl

/-- Every line that is read makes a metric. -/
theorem length_of_metricsOfLines {number : Nat} {lines : List String}
    (h : metricsOfLines path number lines = .ok ms) : ms.length = lines.length := by
  induction lines generalizing number ms with
  | nil => cases h; rfl
  | cons line lines ih =>
    rw [metricsOfLines] at h
    obtain ⟨record, -, h⟩ := bind_eq_ok.1 h
    obtain ⟨m, -, h⟩ := bind_eq_ok.1 h
    obtain ⟨ms', hms', h⟩ := bind_eq_ok.1 h
    obtain rfl : m :: ms' = ms := Except.ok.inj h
    rw [List.length_cons, List.length_cons, ih hms']

theorem toList_recordsText (ms : List Metric) :
    (recordsText ms).toList = (ms.map (·.line.toList)).flatMap (· ++ ['\n']) := by
  induction ms with
  | nil => rfl
  | cons m ms ih =>
    show (m.line ++ "\n" ++ recordsText ms).toList = _
    rw [String.toList_append, String.toList_append, ih]
    rfl

theorem framed_lines (ms : List Metric) : ∀ l ∈ ms.map (·.line.toList), Framed l := by
  intro l hl
  obtain ⟨m, -, rfl⟩ := List.mem_map.1 hl
  exact m.framed_line

theorem unifyNewlines_recordsText (ms : List Metric) :
    unifyNewlines (recordsText ms).toList = (recordsText ms).toList := by
  refine unifyNewlines_of_not_mem fun h => ?_
  rw [toList_recordsText, List.mem_flatMap] at h
  obtain ⟨l, hl, h⟩ := h
  rw [List.mem_append, List.mem_singleton] at h
  exact (framed_lines ms l hl).not_mem (h.resolve_right (by decide))

/-- What the lines of a file of metrics make. -/
theorem metricsOfLines_keptLines_iff (ms : List Metric) :
    metricsOfLines path 1 ((keptLines (recordsText ms).toList).map String.ofList) = .ok ms ↔
      ∀ m ∈ ms, m.OnOneLine := by
  have hends : (∀ l ∈ ms.map (·.line.toList), ∀ c ∈ l, isLineEnd c = false) ↔
      ∀ m ∈ ms, m.OnOneLine := by
    rw [List.forall_mem_map]
    exact forall₂_congr fun m _ => m.forall_isLineEnd_line_iff
  rw [toList_recordsText, ← hends]
  constructor
  · intro h
    have hlength := length_of_metricsOfLines h
    rw [List.length_map] at hlength
    rw [← length_keptLines_eq_iff (framed_lines ms), ← hlength, List.length_map]
  · intro h
    have hlines : (ms.map (·.line.toList)).map String.ofList = ms.map Metric.line := by
      rw [List.map_map]
      exact List.map_congr_left fun m _ => String.ofList_toList
    rw [keptLines_eq_self (framed_lines ms) h, hlines]
    exact metricsOfLines_map_line ms 1

/-! ## Writing and reading -/

section

variable {store : Store} {session : Session} {p q : Path}

/-- A file of metrics is read line by line as it was written. -/
theorem Store.readMetrics_of_write {s : Store} {ms : List Metric} {base : Base} {shown : String}
    (h : s.write (base.resolve p) (Utf8.encode (recordsText ms)) = .ok store) :
    store.readMetrics base p shown =
      metricsOfLines shown 1 ((keptLines (recordsText ms).toList).map String.ofList) := by
  have htext : store.readText (base.resolve p) = .ok (recordsText ms).toList := by
    unfold Store.readText
    rw [Store.read_of_write h]
    show ((Utf8.decode (Utf8.encode (recordsText ms))).mapError Failure.encoding >>= _) = _
    rw [Utf8.decode_encode]
    show Except.ok (unifyNewlines (recordsText ms).toList) = _
    rw [unifyNewlines_recordsText]
  unfold Store.readMetrics Store.readLines
  rw [htext]
  rfl

/-- Metrics that could be written to a file are read back from it exactly if none of their texts holds
a character that ends a line and is not escaped. -/
theorem Work.readMetrics_of_writeMetrics_iff {ms : List Metric} {base : Base} {shown : String}
    (h : (Work.writeMetrics (base.resolve p) ms).outcome store = (.ok q, session)) :
    session.store.readMetrics base p shown = .ok ms ↔ ∀ m ∈ ms, m.OnOneLine := by
  obtain ⟨-, s, hwrite⟩ := Work.write_of_writeText h
  rw [Store.readMetrics_of_write hwrite]
  exact metricsOfLines_keptLines_iff ms

end

/-- Metrics of all three sorts, with texts that need escapes and others that do not. -/
def oddTexts : List Metric :=
  [.base ⟨"nb_visits", "Visits", "\"All\"\r\n\tvisits", "Général", "count(*)", some .count, by decide,
    by decide⟩,
   .base ⟨"nb_odd", "", "a \\ b\x0b\x1e", "General", "", none, by decide, by decide⟩,
   .computed ⟨"visits_odd_rate", "Rate", "", "General", .rate, "nb_visits", "nb_odd", by decide,
    by decide, by decide, by decide, by decide⟩]

theorem Work.readMetrics_of_writeMetrics_oddTexts :
    ∃ session, (Work.writeMetrics (.ofText "out/metrics.jsonl") oddTexts).outcome ⟨[], ["root"]⟩ =
        (.ok (.ofText "out/metrics.jsonl"), session) ∧
      session.store.readMetrics none (.ofText "out/metrics.jsonl") "out/metrics.jsonl" = .ok oddTexts := by
  have hwritten : ((Work.writeMetrics (.ofText "out/metrics.jsonl") oddTexts).outcome ⟨[], ["root"]⟩).1 =
      .ok (.ofText "out/metrics.jsonl") := by decide +kernel
  have h : (Work.writeMetrics (Base.resolve none (.ofText "out/metrics.jsonl")) oddTexts).outcome
      ⟨[], ["root"]⟩ = (.ok (.ofText "out/metrics.jsonl"), _) := Prod.ext hwritten rfl
  exact ⟨_, h, (Work.readMetrics_of_writeMetrics_iff h).2 (by decide)⟩

/-- A metric whose documentation has two lines, with a line separator between them. -/
def separatedMetric : Metric :=
  .base ⟨"nb_visits", "Visits", "First line\u2028second line", "General", "count(*)", some .count,
    by decide, by decide⟩

/-- It is written as one line and read as two, which do not make it again. -/
theorem Work.readMetrics_of_writeMetrics_separatedMetric :
    ∃ session, (Work.writeMetrics (.ofText "metrics.jsonl") [separatedMetric]).outcome ⟨[], ["root"]⟩ =
        (.ok (.ofText "metrics.jsonl"), session) ∧
      session.store.readMetrics none (.ofText "metrics.jsonl") "metrics.jsonl" ≠
        .ok [separatedMetric] := by
  have hwritten : ((Work.writeMetrics (.ofText "metrics.jsonl") [separatedMetric]).outcome
      ⟨[], ["root"]⟩).1 = .ok (.ofText "metrics.jsonl") := by decide +kernel
  have h : (Work.writeMetrics (Base.resolve none (.ofText "metrics.jsonl")) [separatedMetric]).outcome
      ⟨[], ["root"]⟩ = (.ok (.ofText "metrics.jsonl"), _) := Prod.ext hwritten rfl
  obtain ⟨-, s, hwrite⟩ := Work.write_of_writeText h
  have hcut : ¬ ∀ m ∈ [separatedMetric], m.OnOneLine := by decide
  refine ⟨_, h, fun hread => hcut ?_⟩
  exact (metricsOfLines_keptLines_iff _).1 ((Store.readMetrics_of_write hwrite).symm.trans hread)

end Yardstick
