import Yardstick.Text.Utf8

/-!
# Environment blocks

An environment is kept as a block of bytes: entries `name=value`, each ended by a zero byte.
-/

namespace Yardstick.Environment

open Text

/-- The entries of a block. -/
def entries (bytes : List UInt8) : List (List UInt8) :=
  (bytes.splitOnP (· = 0)).filter (!·.isEmpty)

/-- The variable of an entry, if it is text and has a name. -/
def ofEntry? (entry : List UInt8) : Option (String × String) :=
  match Utf8.decode ⟨entry.toArray⟩ with
  | .error _ => none
  | .ok text =>
    match text.toList.span (· != '=') with
    | ([], _) | (_, []) => none
    | (name, _ :: value) => some (String.ofList name, String.ofList value)

/-- The variables of a block. -/
def ofBlock (block : ByteArray) : List (String × String) := (entries block.toList).filterMap ofEntry?

end Yardstick.Environment
