import Yardstick.Text.Quoted

/-!
# Templates

A template is text with fields in braces; a doubled brace stands for one. A field names an argument
and may say how it is quoted and laid out. `parse` cuts a template into segments up to the first
place where it is malformed, so that a fault of an earlier field is found first.
-/

namespace Yardstick.Template

open Yardstick.Text

/-- Why a template cannot be filled. -/
inductive Cause
  /-- No argument has this name. -/
  | unknownName (name : String)
  /-- There is no argument at this index. -/
  | noArgument (index : Nat)
  /-- An argument is shorter than an index into it. -/
  | noCharacter
  | loneOpening
  | loneClosing
  | unclosedField
  | unclosedSpec
  | unclosedIndex
  | openingInName
  | noConversion
  | noColon
  | emptyAttribute
  | afterIndex
  | hugeNumber
  | manualToAutomatic
  | automaticToManual
  | tooDeep
  | unknownConversion (c : Char)
  | spaceSign
  | sign
  | negativeZero
  | alternate
  | numericAlignment
  | bothSeparators
  | separator (mark kind : Char)
  | noPrecision
  | badSpec (spec : String)
  | unknownKind (kind : Char)
  deriving Repr, DecidableEq

/-- Uses of an argument that go beyond a text. -/
inductive Misuse
  /-- An attribute. Those that a runtime gives to every text are not told from the others. -/
  | attribute (name : String)
  | wordIndex
  deriving Repr, DecidableEq

/-- Why filling a template fails: for a reason that is reported with the template, or by a misuse. -/
inductive Fault
  | cause (c : Cause)
  | misuse (m : Misuse)
  deriving Repr, DecidableEq

/-- A character in a message, or its number if it has no shape of its own. -/
def shownChar (last : Nat) (c : Char) : String :=
  if 32 < c.toNat && c.toNat < last then String.singleton c
  else "\\x" ++ String.ofList (hexDigits 1 c.toNat)

def Cause.message : Cause → String
  | .unknownName name => name
  | .noArgument index => s!"Replacement index {index} out of range for positional args tuple"
  | .noCharacter => "string index out of range"
  | .loneOpening => "Single '\x7b' encountered in format string"
  | .loneClosing => "Single '\x7d' encountered in format string"
  | .unclosedField => "expected '\x7d' before end of string"
  | .unclosedSpec => "unmatched '\x7b' in format spec"
  | .unclosedIndex => "Missing ']' in format string"
  | .openingInName => "unexpected '\x7b' in field name"
  | .noConversion => "end of string while looking for conversion specifier"
  | .noColon => "expected ':' after conversion specifier"
  | .emptyAttribute => "Empty attribute in format string"
  | .afterIndex => "Only '.' or '[' may follow ']' in format field specifier"
  | .hugeNumber => "Too many decimal digits in format string"
  | .manualToAutomatic =>
    "cannot switch from manual field specification to automatic field numbering"
  | .automaticToManual =>
    "cannot switch from automatic field numbering to manual field specification"
  | .tooDeep => "Max string recursion exceeded"
  | .unknownConversion c => "Unknown conversion specifier " ++ shownChar 127 c
  | .spaceSign => "Space not allowed in string format specifier"
  | .sign => "Sign not allowed in string format specifier"
  | .negativeZero => "Negative zero coercion (z) not allowed in string format specifier"
  | .alternate => "Alternate form (#) not allowed in string format specifier"
  | .numericAlignment => "'=' alignment not allowed in string format specifier"
  | .bothSeparators => "Cannot specify both ',' and '_'."
  | .separator mark kind => s!"Cannot specify '{mark}' with '{shownChar 128 kind}'."
  | .noPrecision => "Format specifier missing precision"
  | .badSpec spec => s!"Invalid format specifier '{spec}' for object of type 'str'"
  | .unknownKind kind => s!"Unknown format code '{shownChar 128 kind}' for object of type 'str'"

/-- The family of a cause. -/
def Cause.family : Cause → String
  | .unknownName _ => "KeyError"
  | .noArgument _ | .noCharacter => "IndexError"
  | _ => "ValueError"

/-- A cause as reports show it: its family around the quoted message. -/
def Cause.shown (c : Cause) : String := s!"{c.family}({quote c.message})"

def Misuse.message : Misuse → String
  | .attribute name => s!"'str' object has no attribute '{name}'"
  | .wordIndex => "string indices must be integers, not 'str'"

/-- What stands between the braces of a field. -/
structure Field where
  name : List Char
  conversion : Option Char
  spec : List Char
  deriving Repr, DecidableEq

inductive Segment
  | char (c : Char)
  | field (f : Field)
  deriving Repr, DecidableEq

/-- The segments of a template up to a fault in its form, if it has one. -/
structure Parsed where
  segments : List Segment
  fault : Option Cause
  deriving Repr, DecidableEq

/-- The name of a field, the character that ends it and the rest. Between square brackets every
character belongs to the name. -/
def readName : (inBrackets : Bool) → List Char → Except Cause (List Char × Char × List Char)
  | _, [] => .error .unclosedField
  | inBrackets, c :: rest =>
    if inBrackets then (readName (c != ']') rest).map fun (name, stop) => (c :: name, stop)
    else if c = '\x7b' then .error .openingInName
    else if c = '\x7d' || c = ':' || c = '!' then .ok ([], c, rest)
    else (readName (c = '[') rest).map fun (name, stop) => (c :: name, stop)

/-- The layout of a field up to its closing brace; `depth` counts the braces open inside. -/
def readSpec : (depth : Nat) → List Char → Except Cause (List Char × List Char)
  | _, [] => .error .unclosedSpec
  | depth, c :: rest =>
    if c = '\x7b' then (readSpec (depth + 1) rest).map fun (spec, s) => (c :: spec, s)
    else if c = '\x7d' then
      match depth with
      | 0 => .ok ([], rest)
      | depth + 1 => (readSpec depth rest).map fun (spec, s) => (c :: spec, s)
    else (readSpec depth rest).map fun (spec, s) => (c :: spec, s)

/-- What follows an exclamation mark: a conversion and perhaps a layout. -/
def readConversion (name : List Char) : List Char → Except Cause (Field × List Char)
  | [] => .error .noConversion
  | [_] => .error .unclosedSpec
  | conversion :: c :: rest =>
    if c = '\x7d' then .ok (⟨name, some conversion, []⟩, rest)
    else if c = ':' then
      (readSpec 0 rest).map fun (spec, s) => (⟨name, some conversion, spec⟩, s)
    else .error .noColon

/-- A field after its opening brace. -/
def readField (s : List Char) : Except Cause (Field × List Char) :=
  match readName false s with
  | .error e => .error e
  | .ok (name, stop, rest) =>
    if stop = '!' then readConversion name rest
    else if stop = ':' then (readSpec 0 rest).map fun (spec, s) => (⟨name, none, spec⟩, s)
    else .ok (⟨name, none, []⟩, rest)

def Parsed.cons (s : Segment) (p : Parsed) : Parsed := ⟨s :: p.segments, p.fault⟩

/-- Each step takes at least one character, so the length of the text is fuel enough. -/
def parseFrom : (fuel : Nat) → List Char → Parsed
  | 0, _ => ⟨[], none⟩
  | _ + 1, [] => ⟨[], none⟩
  | fuel + 1, c :: rest =>
    if c = '\x7b' then
      match rest with
      | [] => ⟨[], some .loneOpening⟩
      | d :: rest' =>
        if d = '\x7b' then (parseFrom fuel rest').cons (.char c)
        else
          match readField rest with
          | .error e => ⟨[], some e⟩
          | .ok (f, rest) => (parseFrom fuel rest).cons (.field f)
    else if c = '\x7d' then
      match rest with
      | d :: rest' =>
        if d = '\x7d' then (parseFrom fuel rest').cons (.char c) else ⟨[], some .loneClosing⟩
      | [] => ⟨[], some .loneClosing⟩
    else (parseFrom fuel rest).cons (.char c)

def parse (template : List Char) : Parsed := parseFrom template.length template

end Yardstick.Template
