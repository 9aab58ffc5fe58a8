/-!
# Paths

A path is written with slashes. Empty parts and single points say nothing and are dropped; double
points stay. A path that starts with a slash is absolute, and one that starts with exactly two slashes
keeps both.
-/

namespace Yardstick

structure Path where
  root : String
  parts : List String
  deriving Repr, DecidableEq

namespace Path

/-- The parts of a text between slashes. -/
def splitSlash : List Char → List (List Char)
  | [] => [[]]
  | c :: rest =>
    match splitSlash rest with
    | [] => [[c]]
    | part :: parts => if c = '/' then [] :: part :: parts else (c :: part) :: parts

/-- What a path with this text is relative to. -/
def rootOf : List Char → String
  | ['/', '/'] => "//"
  | '/' :: '/' :: c :: _ => if c = '/' then "/" else "//"
  | '/' :: _ => "/"
  | _ => ""

def ofText (text : String) : Path where
  root := rootOf text.toList
  parts := ((splitSlash text.toList).map String.ofList).filter fun part => part != "" && part != "."

def text (p : Path) : String :=
  if p.root = "" && p.parts.isEmpty then "." else p.root ++ "/".intercalate p.parts

def isAbsolute (p : Path) : Bool := p.root != ""

/-- The second path as seen from the first. -/
def join (p q : Path) : Path := if q.isAbsolute then q else { p with parts := p.parts ++ q.parts }

/-- The path as seen from a home directory, if it starts with a tilde. -/
def fromHome (p home : Path) : Path :=
  match p.root, p.parts with
  | "", "~" :: parts => { home with parts := home.parts ++ parts }
  | _, _ => p

def child (p : Path) (name : String) : Path := { p with parts := p.parts ++ [name] }

def parent (p : Path) : Path := { p with parts := p.parts.dropLast }

def name (p : Path) : String := p.parts.getLastD ""

/-- The name up to its last point. A point at either end of the name counts for nothing. -/
def stem (p : Path) : String :=
  let cs := p.name.toList
  let after := (cs.reverse.takeWhile (· != '.')).length
  if after = 0 || cs.length ≤ after + 1 then p.name else String.ofList (cs.take (cs.length - after - 1))

/-- Whether the text holds a zero character, which no file name does. -/
def hasZero (p : Path) : Bool := p.text.toList.any (·.toNat = 0)

end Path

end Yardstick
