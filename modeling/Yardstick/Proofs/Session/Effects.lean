import Yardstick.Proofs.Session.Values
import Yardstick.Proofs.Store.Files

/-!
# The files that a run changes

A run reads until its report is built. After that it writes the metrics, and the evaluated values last, so
that a failure leaves the file of values as it was. `Work.Changes` says which files some work may have
changed, apart when it ends well and when it fails, and goes through a run step by step
(`Work.run_changes_outputs`).
-/

namespace Yardstick

open Text Store

/-- Where a run with these settings writes its metrics. -/
def Settings.outputPlace (s : Settings) : Place := (Path.ofText s.outputPath).place

/-- Where a run with these settings writes the evaluated values, if it starts with this store. -/
def Settings.evaluatedPlace (s : Settings) (store : Store) : Place :=
  store.valuesPlace (.ofText s.evaluatedPath)

namespace Work

variable {α β : Type} {home : List String} {done done' failed failed' : List Place} {p q : Path}
  {text : String} {store : Store} {session after between : Session}

/-! ## Changes -/

/-- The places `done` after a result, and `failed` after a failure. -/
def placesAfter (done failed : List Place) : Except Failure α → List Place
  | .ok _ => done
  | .error _ => failed

/-- What the work may have changed in a store with this home directory: the files at the places `done` when
it ends well, and those at the places `failed` when it fails. -/
def Changes (home : List String) (x : Work α) (done failed : List Place) : Prop :=
  ∀ session after result, session.store.home = home →
    StateT.run (ExceptT.run x) session = (result, after) →
      ChangesOnly (placesAfter done failed result) session.store after.store

theorem Reads.changes {x : Work α} {f : Store → Except Failure α} (h : x.Reads f) :
    x.Changes home [] [] := by
  intro session after result _ hrun
  obtain ⟨journal, hread⟩ := h session
  obtain ⟨rfl, rfl⟩ := Prod.mk.inj (hread.symm.trans hrun)
  cases f session.store <;> exact .refl [] session.store

theorem Changes.mono {x : Work α} (hx : x.Changes home done failed) (hsub : done ⊆ done') :
    x.Changes home done' failed := by
  intro session after result hhome hrun
  have h := hx session after result hhome hrun
  cases result with
  | ok a => exact h.mono hsub
  | error e => exact h

/-- A failure comes before the second step has changed anything, or within it. -/
theorem Changes.bind {x : Work α} {f : α → Work β} (hx : x.Changes home done failed)
    (hf : ∀ a, (f a).Changes home done' failed') :
    (x >>= f).Changes home (done ++ done') (failed ++ (done ++ failed')) := by
  intro session after result hhome hrun
  cases hfirst : StateT.run (ExceptT.run x) session with
  | mk r between =>
    have h := hx session between r hhome hfirst
    cases r with
    | error e =>
      rw [run_bind_of_error hfirst] at hrun
      obtain ⟨rfl, rfl⟩ := Prod.mk.inj hrun
      exact h.mono (List.subset_append_left _ _)
    | ok a =>
      rw [run_bind_of_ok hfirst] at hrun
      have h' := h.trans (hf a between after result (h.home.trans hhome) hrun)
      cases result with
      | ok b => exact h'
      | error e => exact h'.mono (List.subset_append_right _ _)

/-- What only reads, and does not fail, changes nothing after the first step. -/
theorem Changes.bind_reads {x : Work α} {f : α → Work β} {g : α → β} (hx : x.Changes home done failed)
    (hf : ∀ a, (f a).Reads fun _ => .ok (g a)) : (x >>= f).Changes home done failed := by
  intro session after result hhome hrun
  cases hfirst : StateT.run (ExceptT.run x) session with
  | mk r between =>
    have h := hx session between r hhome hfirst
    cases r with
    | error e =>
      rw [run_bind_of_error hfirst] at hrun
      obtain ⟨rfl, rfl⟩ := Prod.mk.inj hrun
      exact h
    | ok a =>
      obtain ⟨journal, hread⟩ := hf a between
      rw [run_bind_of_ok hfirst, hread] at hrun
      obtain ⟨rfl, rfl⟩ := Prod.mk.inj hrun
      exact h

/-- A change of the store that changes no file when it is refused. -/
theorem changes_changeStore {f : Store → Store × Option Failure}
    (hdone : ∀ s, s.home = home → (f s).2 = none → ChangesOnly done s (f s).1)
    (hfailed : ∀ s, (f s).2 ≠ none → ChangesOnly [] s (f s).1) : (changeStore f).Changes home done [] := by
  intro session after result hhome hrun
  obtain ⟨rfl, rfl⟩ := Prod.mk.inj ((run_changeStore f session).symm.trans hrun)
  cases hfault : (f session.store).2 with
  | none => exact hdone session.store hhome hfault
  | some e => exact hfailed session.store (by rw [hfault]; nofun)

theorem changes_prepare (p : Path) : (prepare p).Changes home [] [] :=
  changes_changeStore (fun s _ _ => changesOnly_prepare s p) fun s _ => changesOnly_prepare s p

theorem changes_replaceStore {f : Store → Except AccessFault Store}
    (h : ∀ s s', s.home = home → f s = .ok s' → ChangesOnly done s s') :
    (replaceStore p f).Changes home done [] := by
  refine changes_changeStore (fun s hhome hnone => ?_) fun s hsome => ?_
  · cases hf : f s with
    | ok s' => exact h s s' hhome hf
    | error e => rw [hf] at hnone; cases hnone
  · cases hf : f s with
    | ok s' => rw [hf] at hsome; exact absurd rfl hsome
    | error e => exact .refl [] s

theorem changes_writeText (p : Path) (text : String) : (writeText p text).Changes home [p.place] [] := by
  have hwrite : (replaceStore p (·.write p (Utf8.encode text))).Changes home [p.place] [] :=
    changes_replaceStore fun _ _ _ => changesOnly_write
  exact (changes_prepare p).bind fun _ => hwrite.bind_reads fun _ => reads_pure p

/-- A frame that is written to an address changes no file. -/
theorem changes_writeFrame (store : Store) (p : Path) (f : Frame) :
    (writeFrame p f).Changes store.home [store.valuesPlace p] [] := by
  have hvalues : (replaceStore p (·.writeValues p (Utf8.encode (Csv.write f)))).Changes store.home
      [store.valuesPlace p] [] := by
    refine changes_replaceStore fun s s' hhome h => ?_
    have hplace : s.valuesPlace p = store.valuesPlace p := by
      unfold valuesPlace homePath
      rw [hhome]
    exact hplace ▸ changesOnly_writeValues h
  unfold writeFrame
  refine (changes_prepare p).bind fun _ => ?_
  cases Address.ofText? p.text with
  | some a =>
    have hfetch : (replaceStore p fun s => (s.fetch a).map fun _ => s).Changes store.home [] [] := by
      refine changes_replaceStore fun s s' _ h => ?_
      obtain ⟨_, -, rfl⟩ := map_eq_ok.1 h
      exact .refl [] s
    have hboth : (do
        replaceStore p fun s => (s.fetch a).map fun _ => s
        ofExcept (checkPacking p (Packed.Packing.ofPath? p.text))
        return p : Work Path).Changes store.home [] [] :=
      hfetch.bind fun _ => (reads_ofExcept _).changes.bind_reads fun _ => reads_pure p
    exact hboth.mono (List.nil_subset _)
  | none =>
    exact (reads_ofExcept _).changes.bind fun _ => hvalues.bind_reads fun _ => reads_pure p

/-! ## Runs -/

/-- What a run does before it writes anything: it reads its definition and builds the report. -/
def built (s : Settings) (path : String) : Work (ReportDefinition × Registry) := do
  let t ← translator s
  let d ← definition path
  let r ← ofJournaled (d.build t)
  return (d, r)

/-- The evaluation of a report, if a file of values is set. -/
def evaluation (s : Settings) (d : ReportDefinition) (r : Registry) : Work Unit :=
  match nonempty? s.valuesPath with
  | none => pure ()
  | some valuesPath => evaluateValues s d r valuesPath

/-- What a run does with the report that it has built. -/
def output (s : Settings) (d : ReportDefinition) (r : Registry) : Work String := do
  let path ← writeMetrics (.ofText s.outputPath) r.metrics
  note .info "descriptors_written"
    [("report_id", .str d.id), ("output_path", .str path.text), ("count", .int r.metrics.length)]
  evaluation s d r
  return path.text

theorem run_eq (s : Settings) : run s = match nonempty? s.definitionPath with
    | none => throw .noDefinition
    | some path => built s path >>= fun b => output s b.1 b.2 := by
  unfold run
  cases nonempty? s.definitionPath with
  | none => rfl
  | some path => cases h : nonempty? s.valuesPath <;> simp [built, output, evaluation, h]

theorem reads_built (s : Settings) (path : String) : (built s path).Reads fun store => do
    let t ← store.translator s
    let d ← store.definition path
    let r ← (d.registry t).mapError .fault
    return (d, r) :=
  (reads_translator s).bind fun t => (reads_definition path).bind fun d =>
    (reads_ofJournaled (d.yields_build t)).bind fun _ => reads_pure _

section

variable {s : Settings} {r : Registry} {d : ReportDefinition} {f : Failure} {journal : Journal}
  {result : Except Failure String}

/-- Where no report can be built, nothing is written. -/
theorem run_of_report_error (h : store.report s = .error f) :
    ∃ journal, (run s).outcome store = (.error f, ⟨store, journal⟩) := by
  unfold outcome
  rw [run_eq]
  unfold Store.report at h
  cases hpath : nonempty? s.definitionPath with
  | none =>
    rw [hpath] at h
    cases h
    exact ⟨.empty, rfl⟩
  | some path =>
    rw [hpath] at h
    obtain ⟨journal, hbuilt⟩ := reads_built s path ⟨store, .empty⟩
    refine ⟨journal, run_bind_of_error (hbuilt.trans (Prod.ext ?_ rfl))⟩
    simp only [bind_eq_error] at h ⊢
    rcases h with h | ⟨t, ht, h | ⟨d, hd, h⟩⟩
    · exact .inl h
    · exact .inr ⟨t, ht, .inl h⟩
    · exact .inr ⟨t, ht, .inr ⟨d, hd, .inl h⟩⟩

/-- A report that is built is what a run writes. -/
theorem run_of_report_ok (h : store.report s = .ok r) :
    ∃ d journal, (run s).outcome store =
      StateT.run (ExceptT.run (output s d r)) ⟨store, journal⟩ := by
  unfold outcome
  rw [run_eq]
  unfold Store.report at h
  cases hpath : nonempty? s.definitionPath with
  | none => rw [hpath] at h; cases h
  | some path =>
    rw [hpath] at h
    obtain ⟨t, ht, h⟩ := Yardstick.bind_eq_ok.1 h
    obtain ⟨d, hd, hr⟩ := Yardstick.bind_eq_ok.1 h
    obtain ⟨journal, hbuilt⟩ := reads_built s path ⟨store, .empty⟩
    refine ⟨d, journal, run_bind_of_ok (a := (d, r)) (hbuilt.trans (Prod.ext ?_ rfl))⟩
    simp only [Yardstick.bind_eq_ok]
    exact ⟨t, ht, d, hd, r, hr, rfl⟩

theorem silent_writeMetrics (p : Path) (metrics : List Metric) : (writeMetrics p metrics).Silent :=
  silent_writeText p (recordsText metrics)

theorem changes_evaluation (s : Settings) (store : Store) (d : ReportDefinition) (r : Registry) :
    (evaluation s d r).Changes store.home [s.evaluatedPlace store] [] := by
  unfold evaluation
  cases nonempty? s.valuesPath with
  | none => exact (reads_pure ()).changes.mono (List.nil_subset _)
  | some valuesPath =>
    exact (reads_reading _).changes.bind fun frame =>
      (reads_ofJournaled (r.yields_evaluate frame)).changes.bind fun g =>
        (changes_writeFrame store _ g).bind_reads fun _ => reads_note _ _ _

/-- What follows the metrics changes no file but that of the evaluated values. -/
theorem changes_rest (s : Settings) (store : Store) (d : ReportDefinition) (r : Registry) (p : Path)
    {fields : List (String × Json)} :
    (do
      note .info "descriptors_written" fields
      evaluation s d r
      return p.text : Work String).Changes store.home [s.evaluatedPlace store] [] :=
  (reads_note _ _ _).changes.bind fun _ =>
    (changes_evaluation s store d r).bind_reads fun _ => reads_pure p.text

theorem changes_output (s : Settings) (store : Store) (d : ReportDefinition) (r : Registry) :
    (output s d r).Changes store.home [s.outputPlace, s.evaluatedPlace store] [s.outputPlace] :=
  (changes_writeText _ _).bind fun p => changes_rest s store d r p

/-- The metrics stay as they were written, whatever comes of the evaluation. -/
theorem file?_of_output (hplaces : s.outputPlace ≠ s.evaluatedPlace store)
    (hwritten : ((writeMetrics (.ofText s.outputPath) r.metrics).outcome store).1 = .ok p)
    (hrun : StateT.run (ExceptT.run (output s d r)) ⟨store, journal⟩ = (result, after)) :
    after.store.file? s.outputPlace = some (Utf8.encode (recordsText r.metrics)) := by
  obtain ⟨written, hwrite⟩ := exists_outcome_eq hwritten
  obtain ⟨-, before, hfile⟩ := write_of_writeText hwrite
  have hhome : written.store.home = store.home := (changes_writeText _ _ _ _ _ rfl hwrite).home
  have hfirst := silent_writeMetrics (.ofText s.outputPath) r.metrics store journal
  rw [hwrite] at hfirst
  have hrest := changes_rest s store d r p ⟨written.store, journal⟩ after result hhome
    ((run_bind_of_ok hfirst).symm.trans hrun)
  rw [← file?_of_write hfile]
  cases result with
  | ok q => exact hrest.kept s.outputPlace (List.mem_singleton.not.2 hplaces)
  | error f => exact hrest.kept s.outputPlace List.not_mem_nil

/-- Metrics that cannot be written end a run and leave the file that was there. -/
theorem eq_error_of_output
    (hfailed : ((writeMetrics (.ofText s.outputPath) r.metrics).outcome store).1 = .error f)
    (hrun : StateT.run (ExceptT.run (output s d r)) ⟨store, journal⟩ = (result, after)) :
    result = .error f ∧ ChangesOnly [] store after.store := by
  have hfirst := silent_writeMetrics (.ofText s.outputPath) r.metrics store journal
  have hchanges := changes_writeText _ _ _ _ _ rfl hfirst
  rw [hfailed] at hfirst hchanges
  obtain ⟨rfl, rfl⟩ := Prod.mk.inj ((run_bind_of_error hfirst).symm.trans hrun)
  exact ⟨rfl, hchanges⟩

/-- What a run with some settings has made of a store. -/
structure Effects (s : Settings) (before : Store) (result : Except Failure String) (after : Store) : Prop where
  others : ∀ q, q ≠ s.outputPlace → q ≠ s.evaluatedPlace before → after.file? q = before.file? q
  /-- Before the report is built nothing changes, be it a file or a directory. -/
  unbuilt : ∀ f, before.report s = .error f → result = .error f ∧ after = before
  evaluated : ∀ f, result = .error f →
    after.file? (s.evaluatedPlace before) = before.file? (s.evaluatedPlace before)
  written : ∀ r p, before.report s = .ok r →
    ((writeMetrics (.ofText s.outputPath) r.metrics).outcome before).1 = .ok p →
      after.file? s.outputPlace = some (Utf8.encode (recordsText r.metrics))
  unwritten : ∀ r f, before.report s = .ok r →
    ((writeMetrics (.ofText s.outputPath) r.metrics).outcome before).1 = .error f →
      result = .error f ∧ after.file? s.outputPlace = before.file? s.outputPlace

theorem effects_of_output (hplaces : s.outputPlace ≠ s.evaluatedPlace store) (hreport : store.report s = .ok r)
    (hrun : StateT.run (ExceptT.run (output s d r)) ⟨store, journal⟩ = (result, after)) :
    Effects s store result after.store := by
  have hchanges := changes_output s store d r _ _ _ rfl hrun
  refine ⟨fun q hq hq' => ?_, fun f h => ?_, fun f h => ?_, fun r' p h hp => ?_, fun r' f h hf => ?_⟩
  · cases result with
    | ok path => exact hchanges.kept q (by simp [placesAfter, hq, hq'])
    | error f => exact hchanges.kept q (List.mem_singleton.not.2 hq)
  · cases hreport.symm.trans h
  · subst h
    exact hchanges.kept _ (List.mem_singleton.not.2 hplaces.symm)
  · cases hreport.symm.trans h
    exact file?_of_output hplaces hp hrun
  · cases hreport.symm.trans h
    obtain ⟨hresult, hkept⟩ := eq_error_of_output hf hrun
    exact ⟨hresult, hkept.kept _ List.not_mem_nil⟩

/-- A run changes no file but that of the metrics and that of the evaluated values. It changes nothing
before the report is built, and not the evaluated values when it fails. The file of metrics holds the lines
of the whole report once it is written, whatever comes of the evaluation. -/
theorem run_effects (hplaces : s.outputPlace ≠ s.evaluatedPlace store) :
    Effects s store ((run s).outcome store).1 ((run s).outcome store).2.store := by
  cases hreport : store.report s with
  | error f =>
    obtain ⟨journal, hrun⟩ := run_of_report_error hreport
    rw [hrun]
    refine ⟨fun _ _ _ => rfl, fun f' h => ?_, fun _ _ => rfl, fun r p h => ?_, fun r f' h => ?_⟩
    · cases hreport.symm.trans h
      exact ⟨rfl, rfl⟩
    · cases hreport.symm.trans h
    · cases hreport.symm.trans h
  | ok r =>
    obtain ⟨d, journal, hrun⟩ := run_of_report_ok hreport
    exact effects_of_output hplaces hreport hrun.symm

end

/-- A report of one metric without its file of values, beside the files of an earlier run. -/
def staleStore : Store where
  nodes :=
    [(⟨false, 0, ["report.json"]⟩,
      .file (Utf8.encode ("\x7b\"reportId\":\"web\",\"dimensions\":[\x7b\"dimension\":\x7b\"id\":\"page\"," ++
        "\"module\":\"web\",\"categoryId\":\"web\",\"sqlSegment\":\"url\",\"labelKey\":\"Page\"\x7d," ++
        "\"aggregations\":[\"count\"]\x7d]\x7d"))),
     (⟨false, 0, ["metrics.jsonl"]⟩, .file (Utf8.encode "stale\n")),
     (⟨false, 0, ["computed.csv"]⟩, .file (Utf8.encode "label\nstale\n"))]

/-- The metrics are replaced as a whole and the evaluated values stay. -/
theorem run_effects_staleStore :
    valuesSettings.outputPlace ≠ valuesSettings.evaluatedPlace staleStore ∧
    ∃ f r, ((run valuesSettings).outcome staleStore).1 = .error f ∧
      staleStore.report valuesSettings = .ok r ∧ r.metrics.length = 1 ∧
      let after := ((run valuesSettings).outcome staleStore).2.store
      after.file? ⟨false, 0, ["computed.csv"]⟩ = some (Utf8.encode "label\nstale\n") ∧
      after.file? ⟨false, 0, ["metrics.jsonl"]⟩ = some (Utf8.encode (recordsText r.metrics)) := by
  have hplaces : valuesSettings.outputPlace ≠ valuesSettings.evaluatedPlace staleStore := by decide +kernel
  have heffects := run_effects hplaces
  have houtcome : (((run valuesSettings).outcome staleStore).1.isOk,
      (staleStore.report valuesSettings).toOption.map fun r => (r.metrics.length,
        ((writeMetrics (.ofText "metrics.jsonl") r.metrics).outcome staleStore).1.isOk)) =
      (false, some (1, true)) := by
    decide +kernel
  obtain ⟨hfails, hbuilds⟩ := Prod.mk.inj houtcome
  cases hresult : ((run valuesSettings).outcome staleStore).1 with
  | ok path => rw [hresult] at hfails; cases hfails
  | error f =>
    cases hreport : staleStore.report valuesSettings with
    | error f => rw [hreport] at hbuilds; cases hbuilds
    | ok r =>
      rw [hreport] at hbuilds
      obtain ⟨hlength, hwrites⟩ := Prod.mk.inj (Option.some.inj hbuilds)
      refine ⟨hplaces, f, r, rfl, rfl, hlength, ?_, ?_⟩
      · refine (heffects.evaluated f hresult).trans ?_
        decide +kernel
      · cases hwritten : ((writeMetrics (.ofText "metrics.jsonl") r.metrics).outcome staleStore).1 with
        | error f => rw [hwritten] at hwrites; cases hwrites
        | ok p => exact heffects.written r p hreport hwritten

end Work

end Yardstick
