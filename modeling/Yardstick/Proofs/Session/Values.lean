import Yardstick.Proofs.Csv.Readback
import Yardstick.Proofs.Plan.Visit
import Yardstick.Proofs.Report.Registry
import Yardstick.Proofs.Session.Catalogs
import Yardstick.Proofs.Store.Write
import Yardstick.Session.Run

/-!
# Columns that pass through a run

A run reads a file of values, evaluates its report over them and writes the result. A column that is not
computed is written under its name with the words that it was read with, if it has a name and its words are
texts, and in a short file exactly if it has a name and each of its words is written as it stands
(`Work.run_keeps_columns`). In a column of texts these are all words but those for a missing cell: so a
label such as NA is lost. Left out are results that are packed, zero characters, files that are read in more
than one piece, and doubles of more than fifteen digits, on which readers of such files differ.
-/

namespace Yardstick

open Text Csv

/-! ## Evaluated files -/

section

variable {r : Registry} {f g : Frame} {header : List Word} {rows : List (List Word)} {name : String}

/-- Columns that are not computed stay. -/
theorem Registry.get?_of_evaluate (h : (r.evaluate f).outcome.1 = .ok g)
    (hname : name ∉ Plan.names r.computed) : g.columns.get? name = f.columns.get? name := by
  rw [Registry.outcome_evaluate] at h
  obtain ⟨plan, hplan, hrun⟩ := bind_eq_ok.1 h
  obtain ⟨hordered, -⟩ := Plan.ordered_of_plan_eq_ok (mapError_eq_ok.1 hplan)
  refine (Frame.fills_of_evaluate hordered hrun).kept name fun hmem => hname ?_
  obtain ⟨m, hm, rfl⟩ := Plan.mem_names.1 hmem
  exact Plan.name_mem_names (hordered.subset hm)

variable {bytes : ByteArray} {j : Nat} {word : Word}
  (hread : readRows (byteChars bytes) = ⟨header :: rows, none⟩) (hnodup : header.Nodup)
  (hwidth : ∀ row ∈ rows, row.length = header.length) (hf : readFrame bytes = .ok f)
  (hg : (r.evaluate f).outcome.1 = .ok g) (hlegible : Csv.Legible g)
  (hword : header[j]? = some word) (hcomputed : ∀ m ∈ r.computed, wordOf m.name.toList ≠ word)

include hread hnodup hwidth hf hg hlegible hword hcomputed

/-- A column that is not computed is in the evaluated file as it was in the file of values exactly if it
has a name and each of its words is written as it stands. -/
theorem Registry.hasColumn_iff :
    (readRows (byteChars (Utf8.encode (write g)))).HasColumn word (wordsAt rows j) ↔
      word ≠ [] ∧ ∀ w ∈ wordsAt rows j, (wordsAt rows j).kind.Keeps w := by
  obtain ⟨names, rfl, hnames, hisread⟩ := readFrame_eq_ok hread hnodup hwidth hf
  obtain ⟨name, rfl, hname⟩ := exists_name hnames hword
  have hkept : g.columns.get? name = f.columns.get? name := by
    refine Registry.get?_of_evaluate hg fun hmem => ?_
    obtain ⟨m, hm, rfl⟩ := Plan.mem_names.1 hmem
    exact hcomputed m hm rfl
  constructor
  · intro h
    obtain ⟨n, c, hn, hc, hws⟩ := (hasColumn_write_iff hlegible).1 h
    obtain rfl := wordOf_injective hn
    rw [hkept] at hc
    have hmem : name ∈ columnNames names := by
      rw [← hisread.names_eq, Frame.mem_names_iff, Table.contains, hc]
      rfl
    have hempty : name ≠ "" := fun hempty => empty_not_mem_columnNames hnames (hempty ▸ hmem)
    have hnonempty : wordOf name.toList ≠ [] := by simpa [wordOf_eq_nil] using hempty
    obtain ⟨c', hc', hcells⟩ := hisread.cells (hname hnonempty)
    obtain rfl := Option.some.inj (hc'.symm.trans hc)
    refine ⟨hnonempty, map_cellWord_eq_self_iff.1 ?_⟩
    rw [← hcells, ← hws]
  · rintro ⟨hnonempty, hkeeps⟩
    obtain ⟨c, hc, hcells⟩ := hisread.cells (hname hnonempty)
    refine (hasColumn_write_iff hlegible).2 ⟨name, c, rfl, hkept.trans hc, ?_⟩
    rw [hcells, map_cellWord_eq_self_iff.2 hkeeps]

/-- A column of texts that has a name and is not computed is in the evaluated file as it was in the file of
values. -/
theorem Registry.hasColumn_of_textual (hnonempty : word ≠ [])
    (htextual : ∀ w ∈ wordsAt rows j, Textual w) :
    (readRows (byteChars (Utf8.encode (write g)))).HasColumn word (wordsAt rows j) := by
  have hiff := Registry.hasColumn_iff hread hnodup hwidth hf hg hlegible hword hcomputed
  obtain ⟨names, rfl, hnames, hisread⟩ := readFrame_eq_ok hread hnodup hwidth hf
  obtain ⟨name, rfl, hname⟩ := exists_name hnames hword
  have hbytes : ∀ row ∈ (readRows (byteChars bytes)).rows, ∀ w ∈ row, ∀ c ∈ w, c.toNat < 256 :=
    forall_mem_readRows (forall_mem_byteChars bytes)
  rw [hread, List.forall_mem_cons] at hbytes
  exact hiff.2 ⟨hnonempty, hisread.keeps_of_textual hbytes.2 (hname hnonempty) htextual⟩

end

/-! ## The report of a run -/

namespace Store

/-- The translator of some settings. -/
def translator (store : Store) (s : Settings) : Except Failure Translator := do
  let catalogs ← match nonempty? s.translationsDir with
    | some directory => store.listJson (.ofText directory) >>= (·.mapM (store.readCatalog none))
    | none => .ok []
  return .ofCatalogs catalogs s.locale s.fallbackLocale

def definition (store : Store) (path : String) : Except Failure ReportDefinition := do
  let ms ← store.readObject (.ofText path)
  (ReportDefinition.ofMembers ms).mapError (.invalidDefinition path)

/-- The metrics that a run with these settings writes. -/
def report (store : Store) (s : Settings) : Except Failure Registry :=
  match nonempty? s.definitionPath with
  | none => .error .noDefinition
  | some path => do
    let t ← store.translator s
    let d ← store.definition path
    (d.registry t).mapError .fault

/-- The content of a file of values, which may be packed. -/
def valuesContent (store : Store) (p : Path) : Except Failure ByteArray := do
  let packing := Packed.Packing.ofPath? p.text
  let bytes ← store.readValues p packing
  let content ← (packing.elim (.ok bytes.toList) (·.content bytes.toList)).mapError (packingFailure p)
  return ⟨content.toArray⟩

theorem readFrame_eq_ok {store : Store} {p : Path} {f : Frame} (h : store.readFrame p = .ok f) :
    ∃ content, store.valuesContent p = .ok content ∧ Csv.readFrame content = .ok f := by
  obtain ⟨bytes, hbytes, h⟩ := bind_eq_ok.1 h
  obtain ⟨content, hcontent, h⟩ := bind_eq_ok.1 h
  refine ⟨⟨content.toArray⟩, ?_, mapError_eq_ok.1 h⟩
  exact bind_eq_ok.2 ⟨bytes, hbytes, bind_eq_ok.2 ⟨content, hcontent, rfl⟩⟩

/-- A file of values is read where it was written, which may be in the home directory. -/
theorem read_of_writeValues {store store' : Store} {p : Path} {bytes : ByteArray}
    (h : store.writeValues p bytes = .ok store') :
    store'.read (p.fromHome store'.homePath) = .ok bytes := by
  unfold writeValues at h
  dsimp only at h
  split at h
  · obtain ⟨place, -, -, hput⟩ := write_eq_ok h
    have hhome : store'.homePath = store.homePath := by rw [hput]; rfl
    rw [hhome]
    exact read_of_write h
  · cases h

/-- What is written to a file is its content, if nothing is unpacked when it is read. -/
theorem valuesContent_of_writeValues {store store' : Store} {p : Path} {bytes : ByteArray}
    (haddress : Address.ofText? p.text = none) (hpacking : Packed.Packing.ofPath? p.text = none)
    (h : store.writeValues p bytes = .ok store') : store'.valuesContent p = .ok bytes := by
  have hread : store'.readValues p none = .ok bytes := by
    unfold readValues
    simp only [haddress, read_of_writeValues h]
    rfl
  unfold valuesContent
  simp only [hpacking, hread]
  show Except.ok (ByteArray.mk bytes.toList.toArray) = _
  rw [toList_eq_data_toList]

end Store

namespace Work

theorem reads_translator (s : Settings) : (translator s).Reads (·.translator s) := by
  unfold translator Store.translator
  cases nonempty? s.translationsDir with
  | none => exact (reads_note _ _ _).bind fun _ => reads_pure _
  | some directory => exact (reads_readCatalogs none (.ofText directory)).bind fun _ => reads_pure _

theorem reads_definition (path : String) : (definition path).Reads (·.definition path) :=
  Reads.bind (reads_reading _) fun _ => reads_ofExcept _

/-- What a run reads and writes: its report, the content of the file of values, which is read after the
metrics have been written, and the frame that is then the content of the evaluated file. -/
structure Evaluates (s : Settings) (valuesPath : String) (before after : Store) (r : Registry)
    (content : ByteArray) (g : Frame) : Prop where
  report : before.report s = .ok r
  read : ((writeMetrics (.ofText s.outputPath) r.metrics).outcome before).2.store.valuesContent
    (.ofText valuesPath) = .ok content
  result : ∃ f, readFrame content = .ok f ∧ (r.evaluate f).outcome.1 = .ok g
  written : after.valuesContent (.ofText s.evaluatedPath) = .ok (Utf8.encode (write g))

theorem exists_of_evaluateValues {s : Settings} {d : ReportDefinition} {r : Registry} {valuesPath : String}
    {before after : Session} (haddress : Address.ofText? (Path.ofText s.evaluatedPath).text = none)
    (hpacking : Packed.Packing.ofPath? (Path.ofText s.evaluatedPath).text = none)
    (h : StateT.run (ExceptT.run (evaluateValues s d r valuesPath)) before = (.ok (), after)) :
    ∃ content f g, before.store.valuesContent (.ofText valuesPath) = .ok content ∧
      readFrame content = .ok f ∧ (r.evaluate f).outcome.1 = .ok g ∧
      after.store.valuesContent (.ofText s.evaluatedPath) = .ok (Utf8.encode (write g)) := by
  obtain ⟨f, read, hread, h⟩ := bind_eq_ok h
  obtain ⟨hframe, -⟩ := (reads_reading _).eq_ok hread
  obtain ⟨content, hcontent, hf⟩ := Store.readFrame_eq_ok hframe
  obtain ⟨g, evaluated, hevaluated, h⟩ := bind_eq_ok h
  have hg := mapError_eq_ok.1 ((reads_ofJournaled (r.yields_evaluate f)).eq_ok hevaluated).1
  obtain ⟨q, written, hwritten, h⟩ := bind_eq_ok h
  obtain ⟨-, store, hwrite⟩ := writeValues_of_writeFrame haddress hwritten
  have hafter := ((reads_note _ _ _).eq_ok h).2
  refine ⟨content, f, g, hcontent, hf, (r.yields_evaluate f).outcome.trans hg, ?_⟩
  rw [hafter]
  exact Store.valuesContent_of_writeValues haddress hpacking hwrite

theorem exists_evaluates {s : Settings} {valuesPath q : String} {store : Store} {session : Session}
    (hvalues : nonempty? s.valuesPath = some valuesPath)
    (haddress : Address.ofText? (Path.ofText s.evaluatedPath).text = none)
    (hpacking : Packed.Packing.ofPath? (Path.ofText s.evaluatedPath).text = none)
    (h : (run s).outcome store = (.ok q, session)) :
    ∃ r content g, Evaluates s valuesPath store session.store r content g := by
  unfold outcome run at h
  cases hpath : nonempty? s.definitionPath with
  | none => rw [hpath] at h; cases h
  | some path =>
    simp only [hpath, hvalues] at h
    obtain ⟨t, translated, ht, h⟩ := bind_eq_ok h
    obtain ⟨ht, htranslated⟩ := (reads_translator s).eq_ok ht
    obtain ⟨d, defined, hd, h⟩ := bind_eq_ok h
    obtain ⟨hd, hdefined⟩ := (reads_definition path).eq_ok hd
    obtain ⟨r, built, hr, h⟩ := bind_eq_ok h
    obtain ⟨hr, hbuilt⟩ := (reads_ofJournaled (d.yields_build t)).eq_ok hr
    obtain ⟨p, written, hwritten, h⟩ := bind_eq_ok h
    obtain ⟨_, noted, hnoted, h⟩ := bind_eq_ok h
    obtain ⟨_, evaluated, hevaluated, h⟩ := bind_eq_ok h
    obtain ⟨-, rfl⟩ := Prod.mk.inj h
    have hstore : built.store = store := hbuilt.trans (hdefined.trans htranslated)
    have hwrite := (silent_writeText _ _ built.store built.journal).symm.trans hwritten
    have hread : noted.store = ((writeMetrics (.ofText s.outputPath) r.metrics).outcome store).2.store := by
      rw [((reads_note _ _ _).eq_ok hnoted).2, ← hstore, ← (Prod.mk.inj hwrite).2]
      rfl
    obtain ⟨content, f, g, hcontent, hf, hg, hafter⟩ :=
      exists_of_evaluateValues haddress hpacking hevaluated
    refine ⟨r, content, g, ?_, hread ▸ hcontent, ⟨f, hf, hg⟩, hafter⟩
    rw [htranslated] at hd
    unfold Store.report
    rw [hpath]
    exact Yardstick.bind_eq_ok.2 ⟨t, ht, Yardstick.bind_eq_ok.2 ⟨d, hd, hr⟩⟩

/-- A run reads its values, evaluates the report over them and writes the result. If the file that it reads is
regular and the one that it writes legible, then a column that is not computed stays with its words in the
same rows, if it has a name and its words are texts. If the file is read in one piece and the words of the
column are settled, then it stays exactly if it has a name and each of its words is written as it stands. -/
theorem run_keeps_columns {s : Settings} {valuesPath q : String} {store : Store} {session : Session}
    (hvalues : nonempty? s.valuesPath = some valuesPath)
    (haddress : Address.ofText? (Path.ofText s.evaluatedPath).text = none)
    (hpacking : Packed.Packing.ofPath? (Path.ofText s.evaluatedPath).text = none)
    (h : (run s).outcome store = (.ok q, session)) :
    ∃ r content g, Evaluates s valuesPath store session.store r content g ∧
      ∀ header rows, readRows (byteChars content) = ⟨header :: rows, none⟩ → Regular header rows →
        Csv.Legible g → ∀ j word, header[j]? = some word →
        (∀ m ∈ r.computed, wordOf m.name.toList ≠ word) →
          (word ≠ [] → (∀ w ∈ wordsAt rows j, Textual w) →
            (readRows (byteChars (Utf8.encode (write g)))).HasColumn word (wordsAt rows j)) ∧
          (rows.length * header.length ≤ pieceLimit → (∀ w ∈ wordsAt rows j, Settled w) →
            ((readRows (byteChars (Utf8.encode (write g)))).HasColumn word (wordsAt rows j) ↔
              word ≠ [] ∧ ∀ w ∈ wordsAt rows j, (wordsAt rows j).kind.Keeps w)) := by
  obtain ⟨r, content, g, hevaluates⟩ := exists_evaluates hvalues haddress hpacking h
  obtain ⟨f, hf, hg⟩ := hevaluates.result
  refine ⟨r, content, g, hevaluates, ?_⟩
  intro header rows hread hregular hlegible j word hword hcomputed
  constructor
  · exact Registry.hasColumn_of_textual hread hregular.nodup hregular.width hf hg hlegible hword hcomputed
  · intro _ _
    exact Registry.hasColumn_iff hread hregular.nodup hregular.width hf hg hlegible hword hcomputed

/-- Settings for an evaluation of the values that are in the working directory. -/
def valuesSettings : Settings where
  locale := "en"
  fallbackLocale := "en"
  translationsDir := none
  definitionPath := some "report.json"
  outputPath := "metrics.jsonl"
  valuesPath := some "values.csv"
  evaluatedPath := "computed.csv"
  logLevel := "INFO"
  logJson := false
  serverEnabled := false
  serverPort := 9300

/-- A store with a report of no metrics and some values. -/
def valuesStore (values : String) : Store where
  nodes :=
    [(⟨false, 0, ["report.json"]⟩,
      .file (Utf8.encode "\x7b\"reportId\": \"countries\", \"dimensions\": []\x7d")),
     (⟨false, 0, ["values.csv"]⟩, .file (Utf8.encode values))]

/-- The visits from one place, with a label that needs quotes. -/
def parisianVisits : String := "label,nb_visits\n\"Paris, FR\",5\n"

/-- The label and the number are written as they were read. -/
theorem run_keeps_parisianVisits :
    ∃ session r content g,
      (run valuesSettings).outcome (valuesStore parisianVisits) = (.ok "metrics.jsonl", session) ∧
      Evaluates valuesSettings "values.csv" (valuesStore parisianVisits) session.store r content g ∧
      (readRows (byteChars (Utf8.encode (write g)))).HasColumn "label".toList ["Paris, FR".toList] ∧
      (readRows (byteChars (Utf8.encode (write g)))).HasColumn "nb_visits".toList ["5".toList] := by
  have hresult : ((run valuesSettings).outcome (valuesStore parisianVisits)).1 = .ok "metrics.jsonl" := by
    decide +kernel
  obtain ⟨session, hrun⟩ := exists_outcome_eq hresult
  obtain ⟨r, content, g, hevaluates, hkeeps⟩ :=
    run_keeps_columns rfl (by decide +kernel) (by decide +kernel) hrun
  have hreport : (valuesStore parisianVisits).report valuesSettings = .ok .empty := by decide +kernel
  obtain rfl := Except.ok.inj (hreport.symm.trans hevaluates.report)
  have hread : ((writeMetrics (.ofText valuesSettings.outputPath) Registry.empty.metrics).outcome
      (valuesStore parisianVisits)).2.store.valuesContent (.ofText "values.csv") =
        .ok (Utf8.encode parisianVisits) := by
    decide +kernel
  obtain rfl := Except.ok.inj (hread.symm.trans hevaluates.read)
  obtain ⟨f, hf, hg⟩ := hevaluates.result
  obtain rfl : f = g := Except.ok.inj hg
  have hlegible : (readFrame (Utf8.encode parisianVisits)).toOption.map (fun f => decide (Csv.Legible f)) =
      some true := by
    decide +kernel
  rw [hf] at hlegible
  have hrows : readRows (byteChars (Utf8.encode parisianVisits)) =
      ⟨["label".toList, "nb_visits".toList] :: [["Paris, FR".toList, "5".toList]], none⟩ := by
    decide +kernel
  have hregular : Regular ["label".toList, "nb_visits".toList] [["Paris, FR".toList, "5".toList]] :=
    ⟨by decide, by decide, by decide⟩
  have hcolumns := hkeeps _ _ hrows hregular (of_decide_eq_true (Option.some.inj hlegible))
  have hlabel := (hcolumns 0 "label".toList rfl (by decide)).1 (by decide) fun w hw => by
    obtain rfl := List.mem_singleton.1 hw
    exact ⟨by decide +kernel, by decide +kernel, by decide +kernel⟩
  have hvisits := (hcolumns 1 "nb_visits".toList rfl (by decide)).2 (by decide) (by decide +kernel)
  exact ⟨session, _, _, f, hrun, hevaluates, hlabel, hvisits.2 (by decide +kernel)⟩

/-- The visits from two countries, one of which has a code that stands for a missing cell. -/
def namibianVisits : String := "label,nb_visits\nFR,5\nNA,7\n"

/-- Its label is lost, though the report has no metrics: the column of labels is not written. -/
theorem run_namibianVisits :
    (valuesStore namibianVisits).report valuesSettings = .ok .empty ∧
    readRows (byteChars (Utf8.encode namibianVisits)) =
      ⟨[["label".toList, "nb_visits".toList], ["FR".toList, "5".toList], ["NA".toList, "7".toList]],
        none⟩ ∧
    ∃ session, (run valuesSettings).outcome (valuesStore namibianVisits) =
        (.ok "metrics.jsonl", session) ∧
      session.store.read (.ofText "computed.csv") = .ok (Utf8.encode "label,nb_visits\nFR,5\n,7\n") ∧
      ¬ (readRows (byteChars (Utf8.encode "label,nb_visits\nFR,5\n,7\n"))).HasColumn "label".toList
        ["FR".toList, "NA".toList] := by
  have hresult : ((run valuesSettings).outcome (valuesStore namibianVisits)).1 = .ok "metrics.jsonl" := by
    decide +kernel
  have hwritten : ((run valuesSettings).outcome (valuesStore namibianVisits)).2.store.read
      (.ofText "computed.csv") = .ok (Utf8.encode "label,nb_visits\nFR,5\n,7\n") := by
    decide +kernel
  obtain ⟨session, hrun⟩ := exists_outcome_eq hresult
  rw [hrun] at hwritten
  refine ⟨by decide +kernel, by decide +kernel, session, hrun, hwritten, ?_⟩
  have hlost : readRows (byteChars (Utf8.encode "label,nb_visits\nFR,5\n,7\n")) =
      ⟨[["label".toList, "nb_visits".toList], ["FR".toList, "5".toList], [[], "7".toList]], none⟩ := by
    decide +kernel
  rw [hlost]
  rintro ⟨header, rows, k, hrows, hname, hwords⟩
  obtain ⟨rfl, rfl⟩ := List.cons.inj (Rows.mk.inj hrows).1
  have hk : k < 2 := (List.getElem?_eq_some_iff.1 hname).1
  have hmissing : ∀ k < 2, wordsAt [["FR".toList, "5".toList], [[], "7".toList]] k ≠
      ["FR".toList, "NA".toList] := by
    decide
  exact hmissing k hk hwords

end Work

end Yardstick
