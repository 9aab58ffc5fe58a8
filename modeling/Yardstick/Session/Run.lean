import Yardstick.Report.Build
import Yardstick.Report.Evaluation
import Yardstick.Schema.Definition
import Yardstick.Session.Catalogs
import Yardstick.Session.Records
import Yardstick.Settings.Basic

/-!
# Runs

A run reads the catalogs and the report definition, builds the report and writes its metrics. If a
file of values is set, it then evaluates the report over them and writes the result. Nothing is written
before the report is built.
-/

namespace Yardstick

/-- The files that a run with these settings may read or write. -/
def Settings.files (s : Settings) : List Path :=
  ([s.definitionPath, s.valuesPath].filterMap nonempty? ++ [s.outputPath, s.evaluatedPath]).map .ofText

namespace Work

/-- The translator of the catalog directory that is set, or one without catalogs. -/
def translator (s : Settings) : Work Translator := do
  let catalogs ← match nonempty? s.translationsDir with
    | some directory => readCatalogs none (.ofText directory)
    | none =>
      note .warning "translations_dir_not_set"
        [("message", .str "Using built-in English templates and raw label keys")]
      pure []
  return .ofCatalogs catalogs s.locale s.fallbackLocale

/-- The report definition in a file. Its issues name the path as it is set. -/
def definition (path : String) : Work ReportDefinition := do
  let ms ← reading (·.readObject (.ofText path))
  ofExcept ((ReportDefinition.ofMembers ms).mapError (.invalidDefinition path))

/-- Evaluates a report over a file of values and writes the result. -/
def evaluateValues (s : Settings) (d : ReportDefinition) (r : Registry) (valuesPath : String) :
    Work Unit := do
  let frame ← reading (·.readFrame (.ofText valuesPath))
  let result ← ofJournaled (r.evaluate frame)
  let path ← writeFrame (.ofText s.evaluatedPath) result
  note .info "computed_values_written"
    [("report_id", .str d.id), ("output_path", .str path.text), ("rows", .int result.rows)]

/-- A whole run. Its result is the path of the metrics. -/
def run (s : Settings) : Work String := do
  match nonempty? s.definitionPath with
  | none => throw .noDefinition
  | some definitionPath =>
    let translator ← translator s
    let definition ← definition definitionPath
    let registry ← ofJournaled (definition.build translator)
    let path ← writeMetrics (.ofText s.outputPath) registry.metrics
    note .info "descriptors_written"
      [("report_id", .str definition.id), ("output_path", .str path.text),
       ("count", .int registry.metrics.length)]
    match nonempty? s.valuesPath with
    | none => pure ()
    | some valuesPath => evaluateValues s definition registry valuesPath
    return path.text

/-- The file of variables that settings may come from. -/
def envFile : Path := .ofText ".env"

/-- The settings of an environment, and of the file of variables if there is one. -/
def settings (values : List (String × Json)) (environment : List (String × String)) : Work Settings := do
  let s := (← get).store
  let text ← match s.read envFile with
    | .ok _ => ofExcept (s.readText envFile)
    | .error _ => pure []
  ofExcept ((Settings.load values environment text).mapError .invalidSettings)

/-- A run whose start and failure are noted. -/
def notedRun (s : Settings) : Work Unit := do
  note .info "settings_loaded"
    [("locale", .str s.locale), ("translations_dir", Schema.optionalText s.translationsDir),
     ("report_definition_path", Schema.optionalText s.definitionPath),
     ("output_path", .str s.outputPath), ("metric_values_path", Schema.optionalText s.valuesPath)]
  tryCatch (discard (run s)) fun f => do
    note .error "descriptor_generation_failed" [("error", .str f.message)]
    throw f

end Work

/-- What is left when the program has ended. -/
structure Finished where
  result : Except Failure Unit
  store : Store
  /-- The log records that the settings let through. -/
  records : List LogRecord
  /-- Whether the records are to be printed as JSON. -/
  logJson : Bool

/-- The program in an environment and a store. Where the settings are at fault, nothing is logged. -/
def program (environment : List (String × String)) (store : Store) : Finished :=
  match (Work.settings [] environment).outcome store with
  | (.error f, session) => ⟨.error f, session.store, [], false⟩
  | (.ok s, session) =>
    let (result, session) := (Work.notedRun s).outcome session.store
    let threshold := Level.threshold s.logLevel
    ⟨result, session.store, session.journal.records.filter (·.isShown threshold), s.logJson⟩

end Yardstick
