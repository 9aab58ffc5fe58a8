import Yardstick.Table
import Yardstick.Text.Blank

/-!
# Files of environment variables

A file of variables has lines `name=value`. A name may follow the word `export` and may stand in
single quotes. A value may stand in quotes, in which escapes are read and lines may end; without them
it ends at the line's end or at a comment after a blank. A line that is none of this is passed over, and
so is a byte order mark. A value may refer to earlier variables and to those of the environment, with a
default.
-/

namespace Yardstick.EnvFile

open Text

/-- A variable of the file; one without an equals sign has no value. -/
structure Binding where
  name : String
  value : Option String
  deriving Repr, DecidableEq

/-- Quoted content up to its closing quote, and the rest. A quote after a backslash closes only if no
other one does. -/
def readQuoted (quote : Char) : List Char → Option (List Char × List Char)
  | [] => none
  | [c] => if c = quote then some ([], []) else none
  | c :: d :: rest =>
    if c = quote then some ([], d :: rest)
    else if c = '\\' && d = quote then
      match readQuoted quote rest with
      | some (cs, s) => some (c :: d :: cs, s)
      | none => some ([c], rest)
    else (readQuoted quote (d :: rest)).map fun (cs, s) => (c :: cs, s)

/-- What a letter stands for after a backslash in double quotes. -/
def escaped? (c : Char) : Option Char :=
  if c = '\\' || c = '\'' || c = '"' then some c
  else if c = 'a' then some (Char.ofNat 7)
  else if c = 'b' then some (Char.ofNat 8)
  else if c = 'f' then some (Char.ofNat 12)
  else if c = 'n' then some '\n'
  else if c = 'r' then some '\r'
  else if c = 't' then some '\t'
  else if c = 'v' then some (Char.ofNat 11)
  else none

/-- What a character stands for after a backslash in single quotes. -/
def singleEscaped? (c : Char) : Option Char := if c = '\\' || c = '\'' then some c else none

/-- The content of quotes with its escapes read. -/
def unescape (escaped? : Char → Option Char) : List Char → List Char
  | [] => []
  | [c] => [c]
  | c :: d :: rest =>
    match (if c = '\\' then escaped? d else none) with
    | some e => e :: unescape escaped? rest
    | none => c :: unescape escaped? (d :: rest)

def untilLineEnd (s : List Char) : List Char × List Char := s.span (· != '\n')

/-- A value without quotes, up to a comment that follows a blank. -/
def withoutComment : List Char → List Char
  | [] => []
  | c :: rest =>
    if isBlank c && (rest.dropWhile isBlank).head? = some '#' then [] else c :: withoutComment rest

/-- The value after the equals sign and blanks. Before a comment the blanks count, too. -/
def readValue (s : List Char) : Option (List Char × List Char) :=
  match s.dropWhile isLineSpace with
  | '\'' :: rest => (readQuoted '\'' rest).map fun (cs, s) => (unescape singleEscaped? cs, s)
  | '"' :: rest => (readQuoted '"' rest).map fun (cs, s) => (unescape escaped? cs, s)
  | _ =>
    let (cs, s) := untilLineEnd s
    some (trim isBlank (withoutComment cs), s)

/-- The rest of a line that holds nothing more than a comment. -/
def readLineEnd (s : List Char) : Option (List Char) :=
  let s := s.dropWhile isLineSpace
  let s := if s.head? = some '#' then (untilLineEnd s).2 else s
  match s with
  | [] => some []
  | c :: rest => if c = '\n' then some rest else none

/-- The word `export`, if blanks follow it, is passed over. -/
def skipExport (s : List Char) : List Char :=
  let word := "export".toList
  let rest := s.drop word.length
  if word.isPrefixOf s && (rest.head?.map isLineSpace).getD false then rest.dropWhile isLineSpace else s

/-- A name, in single quotes or without. -/
def readName (s : List Char) : Option (List Char × List Char) :=
  match s with
  | '\'' :: rest =>
    match rest.span (· != '\'') with
    | (name, _ :: s) => if name.isEmpty then none else some (name, s)
    | (_, []) => none
  | _ =>
    let (name, s) := s.span fun c => c != '=' && c != '#' && !isBlank c
    if name.isEmpty then none else some (name, s)

/-- One line, and how the file goes on. A line that cannot be read binds nothing. -/
def readLine (s : List Char) : Option Binding × List Char :=
  let skip (s : List Char) : Option Binding × List Char := (none, (untilLineEnd s).2.drop 1)
  let s := skipExport s
  if s.head? = some '#' then (none, ((readLineEnd s).getD []))
  else
    match readName s with
    | none => skip s
    | some (name, s) =>
      let s := s.dropWhile isLineSpace
      match s with
      | '=' :: rest =>
        match readValue rest with
        | none => skip rest
        | some (value, s) =>
          match readLineEnd s with
          | some s => (some ⟨String.ofList name, some (String.ofList value)⟩, s)
          | none => skip s
      | _ =>
        match readLineEnd s with
        | some s => (some ⟨String.ofList name, none⟩, s)
        | none => skip s

/-- All lines; each takes at least one character. -/
def readLines : (fuel : Nat) → List Char → List Binding
  | 0, _ => []
  | fuel + 1, s =>
    match s.dropWhile isBlank with
    | [] => []
    | c :: rest =>
      let (binding, s) := readLine (c :: rest)
      binding.toList ++ readLines fuel s

/-- The text with references replaced. `value` answers with the value of a name. -/
def substitute (value : List Char → Option (List Char)) : (fuel : Nat) → List Char → List Char
  | 0, s => s
  | _ + 1, [] => []
  | fuel + 1, c :: rest =>
    let reference : Option (List Char × List Char) :=
      match c, rest with
      | '$', '\x7b' :: inner =>
        let (name, after) := inner.span fun c => c != '\x7d' && c != ':'
        match after with
        | '\x7d' :: s => some ((value name).getD [], s)
        | ':' :: '-' :: s =>
          match s.span (· != '\x7d') with
          | (default, _ :: s) => some ((value name).getD default, s)
          | (_, []) => none
        | _ => none
      | _, _ => none
    match reference with
    | some (text, s) => text ++ substitute value fuel s
    | none => c :: substitute value fuel rest

/-- The variables with those of some bindings added, their references replaced. -/
def resolve (environment : List (String × String)) (known : Table (Option String)) :
    List Binding → Table (Option String)
  | [] => known
  | b :: bs =>
    let value (name : List Char) : Option (List Char) :=
      let name := String.ofList name
      match known.get? name with
      | some v => some ((v.getD "").toList)
      | none => (environment.lookup name).map String.toList
    let result := b.value.map fun v => String.ofList (substitute value v.length v.toList)
    resolve environment (known.put b.name result) bs

def byteOrderMark : Char := Char.ofNat 0xFEFF

/-- The variables of a file. -/
def parse (environment : List (String × String)) (text : List Char) : Table (Option String) :=
  let text := if text.head? = some byteOrderMark then text.tail else text
  resolve environment .empty (readLines text.length text)

end Yardstick.EnvFile
