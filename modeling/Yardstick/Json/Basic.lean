import Yardstick.Table

/-!
# JSON values

Objects keep the order of their members and have each key once: of members with one key the last
value stays, in the place of the first (`Json.ofMembers`).
-/

namespace Yardstick

inductive Json
  | null
  | bool (b : Bool)
  | int (n : Int)
  | float (x : Float)
  | str (s : String)
  | arr (items : List Json)
  | obj (members : List (String × Json))
  deriving Repr, Inhabited

namespace Json

/-- An object of members that may repeat a key. -/
def ofMembers (members : List (String × Json)) : Json := .obj (Table.ofList members).entries

/-- The word for the kind of a value in messages. -/
def kindWord : Json → String
  | .null => "NoneType"
  | .bool _ => "bool"
  | .int _ => "int"
  | .float _ => "float"
  | .str _ => "str"
  | .arr _ => "list"
  | .obj _ => "dict"

end Json

end Yardstick
