import Yardstick.Store.Path
import Yardstick.Text.Quoted

/-!
# Stores of files

A store holds files and directories, seen from a working directory that is always there, as the home
directory is. A write puts a new entry in front of the others, and an entry counts if it is the first
for its place. Reading and writing are refused for the reasons that a file system gives, with the path
as it was asked for.
-/

namespace Yardstick

/-- Why a file system refuses a request. -/
inductive Refusal
  | noEntry
  | taken
  | notDirectory
  | isDirectory
  | nameTooLong
  deriving Repr, DecidableEq

def Refusal.number : Refusal → Nat
  | noEntry => 2
  | taken => 17
  | notDirectory => 20
  | isDirectory => 21
  | nameTooLong => 36

def Refusal.text : Refusal → String
  | noEntry => "No such file or directory"
  | taken => "File exists"
  | notDirectory => "Not a directory"
  | isDirectory => "Is a directory"
  | nameTooLong => "File name too long"

def Refusal.message (r : Refusal) (path : String) : String :=
  s!"[Errno {r.number}] {r.text}: {Text.quote path}"

/-- Why nothing is to be had at an address. -/
inductive AddressFault
  | noHost
  | noServer
  | unknownScheme (scheme : String)
  | refused (r : Refusal) (path : String)
  deriving Repr, DecidableEq

def AddressFault.text : AddressFault → String
  | noHost => "no host given"
  | noServer => "ftp error: no host given"
  | unknownScheme scheme => s!"unknown url type: {scheme}"
  | refused r path => r.message path

inductive AccessFault
  | refused (r : Refusal) (path : String)
  /-- A path that no file can have. -/
  | zeroInPath
  /-- A file that is to be written where no directory is. -/
  | noFolder (path : String)
  | address (f : AddressFault)
  deriving Repr, DecidableEq

def AccessFault.message : AccessFault → String
  | refused r path => r.message path
  | zeroInPath => "embedded null byte"
  | noFolder path => s!"Cannot save file into a non-existent directory: {Text.quote path}"
  | address f => s!"<urlopen error {f.text}>"

/-- A place: the names on the way to it, the last first, from the root or from so many levels above
the working directory. -/
structure Place where
  absolute : Bool
  up : Nat
  names : List String
  deriving Repr, DecidableEq

/-- The place as a path from the working directory. -/
def Place.path (p : Place) : Path where
  root := if p.absolute then "/" else ""
  parts := List.replicate p.up ".." ++ p.names.reverse

inductive Node
  | directory
  | file (bytes : ByteArray)

def Node.isDirectory : Node → Bool
  | directory => true
  | file _ => false

structure Store where
  nodes : List (Place × Node)
  /-- The home directory, which is always there: the names on the way to it, the last first. -/
  home : List String := ["root"]

namespace Store

/-- What is at a place. -/
def node? (s : Store) (p : Place) : Option Node :=
  if p.names.isEmpty || (p.absolute && p.names = s.home) then some .directory else s.nodes.lookup p

def put (s : Store) (p : Place) (n : Node) : Store := { s with nodes := (p, n) :: s.nodes }

/-- One step from a place that has to be a directory. -/
def step (s : Store) (p : Place) (name : String) : Except Refusal Place :=
  match s.node? p with
  | none => .error .noEntry
  | some (.file _) => .error .notDirectory
  | some .directory =>
    if 255 < name.utf8ByteSize then .error .nameTooLong
    else if name = ".." then
      match p.names with
      | _ :: names => .ok { p with names }
      | [] => .ok (if p.absolute then p else { p with up := p.up + 1 })
    else .ok { p with names := name :: p.names }

/-- The place of a path. All but its last part have to be directories. -/
def locate (s : Store) (p : Path) : Except AccessFault Place :=
  if p.hasZero then .error .zeroInPath
  else if 4095 < p.text.utf8ByteSize then .error (.refused .nameTooLong p.text)
  else
    (p.parts.foldlM s.step ⟨p.isAbsolute, 0, []⟩).mapError fun r => .refused r p.text

/-- The bytes of a file. -/
def read (s : Store) (p : Path) : Except AccessFault ByteArray := do
  let place ← s.locate p
  match s.node? place with
  | none => throw (.refused .noEntry p.text)
  | some .directory => throw (.refused .isDirectory p.text)
  | some (.file bytes) => return bytes

/-- The store with other bytes in a file, which may be new. -/
def write (s : Store) (p : Path) (bytes : ByteArray) : Except AccessFault Store := do
  let place ← s.locate p
  match s.node? place with
  | some .directory => throw (.refused .isDirectory p.text)
  | _ => return s.put place (.file bytes)

def homePath (s : Store) : Path := { root := "/", parts := s.home.reverse }

/-- Whether there is a directory at a place. -/
def hasDirectory (s : Store) (p : Place) : Bool := (s.node? p).any Node.isDirectory

/-- Whether a path leads to a directory. -/
def isDirectory (s : Store) (p : Path) : Bool :=
  match s.locate p with
  | .ok place => s.hasDirectory place
  | .error _ => false

/-- Makes one directory in another that is there. -/
def makeDirectory (s : Store) (p : Path) : Except AccessFault Store := do
  let place ← s.locate p
  match s.node? place with
  | some _ => throw (.refused .taken p.text)
  | none => return s.put place .directory

/-- The store after an attempt to make a directory, and why it is not there. One that cannot be made
may be there. -/
def orThere (s : Store) (p : Path) (made : Except AccessFault Store) : Store × Option AccessFault :=
  match made with
  | .ok s => (s, none)
  | .error (.refused r path) =>
    if r ≠ .noEntry && s.isDirectory p then (s, none) else (s, some (.refused r path))
  | .error f => (s, some f)

/-- Makes a directory and those on the way to it, `depth` of them at most. What has been made before
one is refused stays. -/
def makeDirectories (s : Store) (p : Path) : (depth : Nat) → Store × Option AccessFault
  | 0 => s.orThere p (s.makeDirectory p)
  | depth + 1 =>
    match s.makeDirectory p with
    | .error (.refused .noEntry path) =>
      if p.parent = p then (s, some (.refused .noEntry path))
      else
        match s.makeDirectories p.parent depth with
        | (s, some f) => (s, some f)
        | (s, none) => s.orThere p (s.makeDirectory p)
    | made => s.orThere p made

/-- Makes the directory that a file is to stand in. -/
def prepare (s : Store) (p : Path) : Store × Option AccessFault :=
  s.makeDirectories p.parent p.parts.length

/-- The names in a directory. -/
def children (s : Store) (p : Place) : List String :=
  (s.nodes.filterMap fun (q, _) =>
    match q.names with
    | name :: names => if { q with names } = p then some name else none
    | [] => none).eraseDups

/-- The files of the store below the working directory, with their bytes. -/
def files (s : Store) : List (String × ByteArray) :=
  (s.nodes.map (·.1)).eraseDups.filterMap fun p =>
    match s.node? p with
    | some (.file bytes) =>
      if p.absolute || p.up ≠ 0 then none else some ("/".intercalate p.names.reverse, bytes)
    | _ => none

/-- The files that are new or other than in an earlier store. -/
def changes (earlier later : Store) : List (String × ByteArray) :=
  later.files.filter fun (path, bytes) => !(earlier.files.lookup path).any fun b => b.data == bytes.data

/-- What was put into an earlier store to make a later one of it, in order. -/
def additions (earlier later : Store) : List (Place × Node) :=
  (later.nodes.take (later.nodes.length - earlier.nodes.length)).reverse

end Store

end Yardstick
