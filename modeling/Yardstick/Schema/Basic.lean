import Yardstick.Json.Basic

/-!
# Checked documents

A document is checked field by field. All issues are collected, in the order of the fields, each with
the place where it stands. A field has a key in camel case and a name in snake case: it is read under
either, the key first, and its issues are placed under the key.
-/

namespace Yardstick.Schema

/-- A step into a document. -/
inductive Step
  | key (name : String)
  | index (i : Nat)
  deriving Repr, DecidableEq

/-- What is wrong with a value. -/
inductive Problem
  | missing
  | notText
  | emptyText
  | notList
  | notObject
  | notModel (model : String)
  | notMember (choices : List String)
  | tooFew (least count : Nat)
  | tooMany (most count : Nat)
  /-- The fields are right one by one and wrong together. -/
  | rejected (reason : String)
  | notBool
  | unreadableBool
  | notInt
  | unreadableInt
  | unreadablyLongInt
  | fractional
  | notFinite
  deriving Repr, DecidableEq

namespace Problem

/-- The word for a kind of problem. -/
def word : Problem → String
  | missing => "missing"
  | notText => "string_type"
  | emptyText => "string_too_short"
  | notList => "list_type"
  | notObject => "dict_type"
  | notModel _ => "model_type"
  | notMember _ => "enum"
  | tooFew _ _ => "too_short"
  | tooMany _ _ => "too_long"
  | rejected _ => "value_error"
  | notBool => "bool_type"
  | unreadableBool => "bool_parsing"
  | notInt => "int_type"
  | unreadableInt => "int_parsing"
  | unreadablyLongInt => "int_parsing_size"
  | fractional => "int_from_float"
  | notFinite => "finite_number"

/-- Quoted choices, the last one after an `or`. -/
def choiceText : List String → String
  | [] => ""
  | [c] => s!"'{c}'"
  | [c, d] => s!"'{c}' or '{d}'"
  | c :: cs => s!"'{c}', " ++ choiceText cs

def message : Problem → String
  | missing => "Field required"
  | notText => "Input should be a valid string"
  | emptyText => "String should have at least 1 character"
  | notList => "Input should be a valid list"
  | notObject => "Input should be a valid dictionary"
  | notModel model => s!"Input should be a valid dictionary or instance of {model}"
  | notMember choices => s!"Input should be {choiceText choices}"
  | tooFew least count => s!"List should have at least {least} items after validation, not {count}"
  | tooMany most count => s!"List should have at most {most} items after validation, not {count}"
  | rejected reason => s!"Value error, {reason}"
  | notBool => "Input should be a valid boolean"
  | unreadableBool => "Input should be a valid boolean, unable to interpret input"
  | notInt => "Input should be a valid integer"
  | unreadableInt => "Input should be a valid integer, unable to parse string as an integer"
  | unreadablyLongInt => "Unable to parse input string as an integer, exceeded maximum size"
  | fractional => "Input should be a valid integer, got a number with a fractional part"
  | notFinite => "Input should be a finite number"

end Problem

/-- A problem and where it is. -/
structure Issue where
  place : List Step
  problem : Problem
  deriving Repr, DecidableEq

def Step.text : Step → String
  | .key name => name
  | .index i => toString i

/-- The issue on a line of its own. -/
def Issue.text (i : Issue) : String :=
  ".".intercalate (i.place.map Step.text) ++ ": " ++ i.problem.message

/-- A checked value, or all its issues. -/
abbrev Checked (α : Type) := Except (List Issue) α

namespace Checked

variable {α β γ : Type}

def fail (p : Problem) : Checked α := .error [⟨[], p⟩]

/-- Applies a checked function to a checked value; the issues of both count. -/
def app (f : Checked (α → β)) (x : Checked α) : Checked β :=
  match f, x with
  | .ok f, .ok x => .ok (f x)
  | .error es, .ok _ => .error es
  | .ok _, .error es => .error es
  | .error es, .error fs => .error (es ++ fs)

/-- The issues of a part, placed in the whole. -/
def within (s : Step) (x : Checked α) : Checked α :=
  x.mapError (List.map fun i => { i with place := s :: i.place })

/-- Checks the items of a list, the first of them at index `i`. -/
def items (check : Json → Checked α) : (i : Nat) → List Json → Checked (List α)
  | _, [] => .ok []
  | i, v :: vs => app ((within (.index i) (check v)).map List.cons) (items check (i + 1) vs)

/-- Checks the members of an object. -/
def members (check : Json → Checked α) : List (String × Json) → Checked (List (String × α))
  | [] => .ok []
  | (key, v) :: ms =>
    app ((within (.key key) (check v)).map fun a => List.cons (key, a)) (members check ms)

end Checked

open Checked

def text : Json → Checked String
  | .str s => .ok s
  | _ => fail .notText

def nonemptyText : Json → Checked String
  | .str s => if s = "" then fail .emptyText else .ok s
  | _ => fail .notText

/-- A value that may be null. -/
def nullable {α : Type} (check : Json → Checked α) : Json → Checked (Option α)
  | .null => .ok none
  | v => (check v).map some

/-- One of some words. -/
def choice {α : Type} (choices : List String) (ofJson? : Json → Option α) (v : Json) : Checked α :=
  (ofJson? v).elim (fail (.notMember choices)) .ok

def list {α : Type} (check : Json → Checked α) : Json → Checked (List α)
  | .arr vs => items check 0 vs
  | _ => fail .notList

/-- A list of exactly `n` items. An item too many is noticed before any issue of the items, one too
few only after all of them. -/
def listOf {α : Type} (n : Nat) (check : Json → Checked α) : Json → Checked (List α)
  | .arr vs =>
    if n < vs.length then fail (.tooMany n vs.length)
    else
      match items check 0 vs with
      | .error es => .error es
      | .ok xs => if xs.length < n then fail (.tooFew n xs.length) else .ok xs
  | _ => fail .notList

def table {α : Type} (check : Json → Checked α) : Json → Checked (Table α)
  | .obj ms => (members check ms).map Table.ofList
  | _ => fail .notObject

/-- An object with the fields of a model. -/
def model {α : Type} (name : String) (check : List (String × Json) → Checked α) : Json → Checked α
  | .obj ms => check ms
  | _ => fail (.notModel name)

/-- How a field is written. -/
structure Key where
  camel : String
  snake : String
  deriving Repr, DecidableEq

/-- A field whose key and name are the same. -/
def Key.plain (name : String) : Key := ⟨name, name⟩

/-- Which spelling of the fields to write. -/
inductive Style
  | camel
  | snake
  deriving Repr, DecidableEq

def Key.inStyle (k : Key) : Style → String
  | .camel => k.camel
  | .snake => k.snake

/-- What an object holds for a field. -/
def Key.find? (k : Key) (ms : List (String × Json)) : Option Json :=
  (ms.lookup k.camel).or (ms.lookup k.snake)

/-- A field that has to be there. -/
def required {α : Type} (k : Key) (check : Json → Checked α) (ms : List (String × Json)) : Checked α :=
  within (.key k.camel) ((k.find? ms).elim (fail .missing) check)

/-- A field with a default. -/
def optional {α : Type} (k : Key) (default : α) (check : Json → Checked α) (ms : List (String × Json)) :
    Checked α :=
  within (.key k.camel) ((k.find? ms).elim (.ok default) check)

def optionalText (s : Option String) : Json := s.elim .null .str

end Yardstick.Schema
