import Yardstick.Metric.Basic
import Yardstick.Text.Case

/-!
# Names of metrics

The name of a base metric is a prefix for its aggregation and the slug of its dimension. A slug
consists of the runs of lower-case ASCII letters and digits in module and id, joined by single
underscores. The name of a computed metric is made of its dependencies' names without their
prefixes.
-/

namespace Yardstick

open Text

/-- What the names of metrics with this aggregation start with. -/
def Aggregation.namePrefix : Aggregation → String
  | count => "nb_"
  | uniqueCount => "nb_uniq_"
  | sum => "sum_"
  | min => "min_"
  | max => "max_"
  | countWithValue => "nb_with_"

/-- Puts a prefix before the first one that is not longer. -/
def insertPrefix (p : String) : List String → List String
  | [] => [p]
  | q :: rest => if q.length ≤ p.length then p :: q :: rest else q :: insertPrefix p rest

/-- All prefixes, a longer one before a shorter one. -/
def namePrefixes : List String := (Aggregation.all.map Aggregation.namePrefix).foldr insertPrefix []

namespace Slug

def isSlugChar (c : Char) : Bool := c.isLower || c.isDigit

/-- The longest runs of slug characters, in order. -/
def runs : List Char → List (List Char)
  | [] => []
  | c :: rest =>
    if isSlugChar c then
      match rest, runs rest with
      | d :: _, run :: more => if isSlugChar d then (c :: run) :: more else [c] :: run :: more
      | _, more => [c] :: more
    else runs rest

/-- Runs joined by single underscores. -/
def join (runs : List (List Char)) : List Char := ['_'].intercalate runs

/-- The slug of a text, empty if it holds no slug character in lower case. -/
def ofChars (s : List Char) : List Char := join (runs (lower s))

end Slug

/-- The slug of a dimension. -/
def slug (module id : String) : Except Error String :=
  let s := Slug.ofChars (module.toList ++ '_' :: id.toList)
  if id = "" || s.isEmpty then .error (.noSlug module id) else .ok (String.ofList s)

/-- The name of a base metric. -/
def baseName (aggregation : Aggregation) (module id : String) : Except Error String :=
  (slug module id).map (aggregation.namePrefix ++ ·)

/-- A name without the longest prefix of the table that it starts with. A name that is itself a
prefix, or starts with none, stays as it is. -/
def withoutPrefix (name : String) : String :=
  if namePrefixes.contains name then name
  else
    match namePrefixes.find? fun p => p.toList.isPrefixOf name.toList with
    | some p => String.ofList (name.toList.drop p.length)
    | none => name

/-- The name of the computed metric of two others. -/
def computedName (numerator denominator : String) : Formula → String
  | .average => "avg_" ++ withoutPrefix numerator ++ "_per_" ++ withoutPrefix denominator
  | .rate => withoutPrefix numerator ++ "_" ++ withoutPrefix denominator ++ "_rate"

end Yardstick
