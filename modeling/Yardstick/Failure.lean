import Yardstick.Csv.Reader
import Yardstick.Json.Reader
import Yardstick.Metric.Error
import Yardstick.Packed.Fault
import Yardstick.Schema.Basic
import Yardstick.Store.Basic

/-!
# Failures of a run

Why a run fails: the engine's faults, and those of the files it reads and writes. Issues of a document
are listed beside the message, which has a stand-in for them.
-/

namespace Yardstick

/-- What is wrong with a line of records. -/
inductive LineFault
  | malformed (f : Json.Fault)
  | notObject
  | issues (is : List Schema.Issue)
  deriving Repr, DecidableEq

inductive Failure
  | fault (f : Fault)
  | unreadable (path : String) (f : AccessFault)
  | unwritable (path : String) (f : AccessFault)
  | malformed (path : String) (f : Json.Fault)
  | notObject (path kind : String)
  | notDirectory (path : String)
  | invalidLine (path : String) (line : Nat) (f : LineFault)
  | invalidCatalog (path : String) (is : List Schema.Issue)
  | invalidDefinition (path : String) (is : List Schema.Issue)
  | invalidSettings (is : List Schema.Issue)
  | unreadableValues (path reason : String)
  /-- A fault in the packing of a file of values that is not put down to the file. -/
  | packing (path : String) (f : Packed.Fault)
  | noDefinition
  /-- A file that is not text. -/
  | encoding (f : Text.Utf8.Fault)
  | hugeInteger (digits : Nat)
  /-- A request that is refused before any file is touched. -/
  | access (f : AccessFault)
  deriving Repr, DecidableEq

namespace Failure

/-- What stands for the issues in a message. -/
def issuesMark : String := "<validation>"

def message : Failure → String
  | fault f => f.message
  | unreadable path f => s!"Failed to read file {path}: {f.message}"
  | unwritable path f => s!"Failed to write file {path}: {f.message}"
  | malformed path f => s!"Invalid JSON in {path}: {f.message}"
  | notObject path kind => s!"Expected a JSON object in {path}, got {kind}"
  | notDirectory path => s!"Not a directory: {path}"
  | invalidLine path line (.malformed f) => s!"Invalid descriptor at {path}:{line}: {f.message}"
  | invalidLine path line .notObject =>
    s!"Invalid descriptor at {path}:{line}: expected a JSON object"
  | invalidLine path line (.issues _) => s!"Invalid descriptor at {path}:{line}: {issuesMark}"
  | invalidCatalog path _ => s!"Invalid translation catalog {path}: {issuesMark}"
  | invalidDefinition path _ => s!"Invalid report definition {path}: {issuesMark}"
  | invalidSettings _ => issuesMark
  | unreadableValues path reason => s!"Failed to read metric values {path}: {reason}"
  | packing path f => f.message path
  | noDefinition => "METRICS_DEFINITIONS_REPORT_DEFINITION_PATH is not set"
  | encoding f => f.message
  | hugeInteger digits => Json.hugeIntegerMessage digits
  | access f => f.message

/-- The issues behind a failure. -/
def issues : Failure → List Schema.Issue
  | invalidLine _ _ (.issues is) => is
  | invalidCatalog _ is => is
  | invalidDefinition _ is => is
  | invalidSettings is => is
  | _ => []

/-- The message, and after it the issues one by one. -/
def lines (f : Failure) : List String := f.message :: f.issues.map (·.text)

end Failure

end Yardstick
