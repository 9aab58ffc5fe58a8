import Yardstick.Decimal.Printer
import Yardstick.Json.Basic
import Yardstick.Text.Quoted

/-!
# Values in messages

A value that stands where a word was expected is named in the message. A text stands for itself
there, and is quoted inside lists and objects.
-/

namespace Yardstick.Json

open Yardstick.Text

mutual

/-- A value inside another one. -/
def nested : Json → List Char
  | .null => "None".toList
  | .bool b => (if b then "True" else "False").toList
  | .int n => intText n
  | .float x => Decimal.floatChars Decimal.plainStyle x
  | .str s => quoteChars s.toList
  | .arr items => '[' :: nestedItems items ++ [']']
  | .obj members => '\x7b' :: nestedMembers members ++ ['\x7d']

def nestedItems : List Json → List Char
  | [] => []
  | [v] => nested v
  | v :: vs => nested v ++ ',' :: ' ' :: nestedItems vs

def nestedMembers : List (String × Json) → List Char
  | [] => []
  | [(key, v)] => quoteChars key.toList ++ ':' :: ' ' :: nested v
  | (key, v) :: ms => quoteChars key.toList ++ ':' :: ' ' :: nested v ++ ',' :: ' ' :: nestedMembers ms

end

/-- A value as messages show it. -/
def shown : Json → String
  | .str s => s
  | v => String.ofList (nested v)

end Yardstick.Json
