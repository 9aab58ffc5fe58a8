import Yardstick.Template.Layout

/-!
# Filling a template

The fields of a template are replaced by its arguments, which are texts. Fields without a name are
numbered as they come, unless others give their number. The layout of a field may itself hold
fields, but theirs may not.
-/

namespace Yardstick.Template

open Yardstick.Text

/-- What the fields of a template may name. -/
structure Arguments where
  positional : List String
  named : List (String × String)
  deriving Repr, DecidableEq

/-- How the fields seen so far give their index. -/
inductive Numbering
  | undecided
  | automatic (next : Nat)
  | manual
  deriving Repr, DecidableEq

/-- The index of a field without a name. -/
def Numbering.next : Numbering → Except Cause (Nat × Numbering)
  | .undecided => .ok (0, .automatic 1)
  | .automatic n => .ok (n, .automatic (n + 1))
  | .manual => .error .manualToAutomatic

/-- Takes note of a field that gives its index. -/
def Numbering.useIndex : Numbering → Except Cause Numbering
  | .automatic _ => .error .automaticToManual
  | _ => .ok .manual

/-- The number that a whole text is, if it is one. -/
def index? (s : List Char) : Except Cause (Option Nat) :=
  match readNumber? s with
  | .error e => .error e
  | .ok (n, []) => .ok n
  | .ok (_, _) => .ok none

/-- The argument's part of a field's name, and the parts after it. -/
def splitName (name : List Char) : List Char × List Char :=
  name.span fun c => c != '.' && c != '['

/-- The argument that a field starts from. -/
def argument (args : Arguments) (numbering : Numbering) (first : List Char) :
    Except Cause (List Char × Numbering) := do
  let nth (i : Nat) : Except Cause (List Char) :=
    match args.positional[i]? with
    | some s => .ok s.toList
    | none => .error (.noArgument i)
  match ← index? first with
  | some i =>
    let numbering ← numbering.useIndex
    return (← nth i, numbering)
  | none =>
    if first.isEmpty then
      let (i, numbering) ← numbering.next
      return (← nth i, numbering)
    else
      let name := String.ofList first
      match args.named.lookup name with
      | some s => return (s.toList, numbering)
      | none => throw (.unknownName name)

/-- Follows the parts of a name after the argument. Only a character can be taken from a text, by
its index. What a runtime may show for an attribute of a text is left out: each is a misuse. -/
def follow : (fuel : Nat) → (path value : List Char) → Except Fault (List Char)
  | 0, _, value => .ok value
  | _ + 1, [], value => .ok value
  | fuel + 1, c :: rest, value =>
    if c = '.' then
      let (name, _) := splitName rest
      if name.isEmpty then .error (.cause .emptyAttribute)
      else .error (.misuse (.attribute (String.ofList name)))
    else if c = '[' then
      match rest.span (· != ']') with
      | (_, []) => .error (.cause .unclosedIndex)
      | (key, _ :: rest) =>
        match index? key with
        | .error e => .error (.cause e)
        | .ok none =>
          if key.isEmpty then .error (.cause .emptyAttribute) else .error (.misuse .wordIndex)
        | .ok (some i) =>
          match value[i]? with
          | some d => follow fuel rest [d]
          | none => .error (.cause .noCharacter)
    else .error (.cause .afterIndex)

/-- The value quoted as the field asks. -/
def convert (value : List Char) : Option Char → Except Cause (List Char)
  | none => .ok value
  | some c =>
    if c = 'r' then .ok (quote (String.ofList value)).toList
    else if c = 'a' then .ok (quoteAscii (String.ofList value)).toList
    else if c = 's' || c.toNat = 0 then .ok value
    else .error (.unknownConversion c)

/-- Text filled so far, and how its fields gave their index. -/
abbrev Filling := Except Fault (List Char × Numbering)

def liftCause {α : Type} (x : Except Cause α) : Except Fault α := x.mapError .cause

/-- The text of one field; `expand` fills its layout. -/
def fillField (expand : Numbering → List Char → Filling) (args : Arguments) (numbering : Numbering)
    (f : Field) : Filling := do
  let (first, path) := splitName f.name
  let (value, numbering) ← liftCause (argument args numbering first)
  let value ← follow (path.length + 1) path value
  let value ← liftCause (convert value f.conversion)
  let (spec, numbering) ←
    if f.spec.contains '\x7b' then expand numbering f.spec else .ok (f.spec, numbering)
  return (← liftCause (layOut spec value), numbering)

def fillSegments (expand : Numbering → List Char → Filling) (args : Arguments) :
    Numbering → List Segment → Filling
  | numbering, [] => .ok ([], numbering)
  | numbering, .char c :: rest => do
    let (out, numbering) ← fillSegments expand args numbering rest
    return (c :: out, numbering)
  | numbering, .field f :: rest => do
    let (text, numbering) ← fillField expand args numbering f
    let (out, numbering) ← fillSegments expand args numbering rest
    return (text ++ out, numbering)

/-- Fills a template whose layouts may be nested `depth` levels deep, itself included. -/
def fillNested (args : Arguments) : (depth : Nat) → Numbering → List Char → Filling
  | 0, _, _ => .error (.cause .tooDeep)
  | depth + 1, numbering, template => do
    let p := parse template
    let (out, numbering) ← fillSegments (fillNested args depth) args numbering p.segments
    match p.fault with
    | some c => throw (.cause c)
    | none => return (out, numbering)

/-- The template with its fields replaced by the arguments. -/
def fill (args : Arguments) (template : String) : Except Fault String :=
  (fillNested args 2 .undecided template.toList).map fun (out, _) => String.ofList out

end Yardstick.Template
