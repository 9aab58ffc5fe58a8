import Yardstick.Catalog
import Yardstick.Metric.Error
import Yardstick.Template.Filling

/-!
# Label templates

A label is a template under a key, with an English default. Catalogs may replace the template; one
that asks for something it is not given is reported with its key.
-/

namespace Yardstick

/-- A key of a template and its English default. -/
structure LabelTemplate where
  key : String
  default : String
  deriving Repr, DecidableEq

/-- The label in the language of the translator. -/
def LabelTemplate.render (l : LabelTemplate) (t : Translator) (args : Template.Arguments) :
    Except Fault String :=
  let template := t.textOr l.key l.default
  match Template.fill args template with
  | .ok text => .ok text
  | .error (.cause c) => .error (.error (.badTemplate l.key template c))
  | .error (.misuse m) => .error (.misuse m)

end Yardstick
