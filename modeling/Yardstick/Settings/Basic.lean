import Yardstick.Decimal.Binary
import Yardstick.Schema.Basic
import Yardstick.Settings.EnvFile
import Yardstick.Text.Case
import Yardstick.Text.Digit

/-!
# Settings

Where a run finds its documents, where it writes, and what it logs. A setting is taken from the
caller, else from the environment, else from a file of variables, else it has its default.
-/

namespace Yardstick

open Text Schema Schema.Checked

structure Settings where
  locale : String
  fallbackLocale : String
  /-- The directory of the catalogs. -/
  translationsDir : Option String
  definitionPath : Option String
  outputPath : String
  /-- The file of values to evaluate the report over, if it is to be evaluated. -/
  valuesPath : Option String
  evaluatedPath : String
  logLevel : String
  logJson : Bool
  serverEnabled : Bool
  serverPort : Int
  deriving Repr, DecidableEq

namespace Settings

/-- What the names of environment variables start with, in lower case. -/
def variablePrefix : String := "metrics_definitions_"

def falseWords : List String := ["0", "off", "f", "false", "n", "no"]

def trueWords : List String := ["1", "on", "t", "true", "y", "yes"]

/-- Zero or one as a boolean. -/
def boolOfInt (n : Int) : Checked Bool :=
  if n = 0 then .ok false else if n = 1 then .ok true else fail .unreadableBool

/-- The integer that a finite double is. -/
def wholeNumber? (x : Float) : Option Int :=
  match Decimal.magnitude? x with
  | none => none
  | some m =>
    let n : Option Nat :=
      if 0 ≤ m.exponent then some (m.mantissa * Decimal.twoTo m.exponent.toNat)
      else
        let p := Decimal.twoTo (-m.exponent).toNat
        if m.mantissa % p = 0 then some (m.mantissa / p) else none
    n.map fun n => if Decimal.isNegative x then -(n : Int) else n

/-- The integer of 64 bits that a finite double is. The least one is left out. -/
def machineInt? (x : Float) : Option Int :=
  (wholeNumber? x).filter fun n => n.natAbs < Decimal.twoTo 63

def bool : Json → Checked Bool
  | .bool b => .ok b
  | .str s =>
    let word := String.ofList (s.toList.map Char.toLower)
    if falseWords.contains word then .ok false
    else if trueWords.contains word then .ok true
    else fail .unreadableBool
  | .int n =>
    let bound : Int := Decimal.twoTo 63
    if -bound ≤ n && n < bound then boolOfInt n else fail .notBool
  | .float x => (machineInt? x).elim (fail .notBool) boolOfInt
  | _ => fail .notBool

/-- The text of an integer without leading zeros, among which underscores may stand. A minus sign may
follow them; one without them has to have a digit after it. -/
def withoutZeros (s : List Char) : Option (List Char) :=
  match s with
  | '0' :: rest =>
    match rest.dropWhile fun c => c = '0' || c = '_' with
    | [] => (s.getLast?).map fun c => [c]
    | c :: more =>
      if c = '.' then ((s.take (s.length - more.length - 1)).getLast?).map fun d => d :: c :: more
      else if c.isDigit || c = '-' then some (c :: more)
      else none
  | '-' :: c :: _ => if c.isDigit then some s else none
  | c :: _ => if c.isDigit then some s else none
  | [] => none

/-- The text without a point that only zeros follow. -/
def withoutFraction (s : List Char) : List Char :=
  match s.span (· != '.') with
  | (whole, _ :: zeros) => if !zeros.isEmpty && zeros.all (· = '0') then whole else s
  | (_, []) => s

/-- The text without underscores, if they are single and inside. -/
def withoutUnderscores (s : List Char) : List Char :=
  let doubled := (s.zip s.tail).any fun (c, d) => c = '_' && d = '_'
  if s.head? = some '_' || s.getLast? = some '_' || doubled then s else s.filter (· != '_')

/-- The integer of digits that may follow a minus sign. -/
def plainInt? (s : List Char) : Option Int :=
  let (negative, ds) := match s with
    | '-' :: rest => (true, rest)
    | _ => (false, s)
  if ds.isEmpty || !ds.all Char.isDigit then none
  else
    let n : Nat := ds.foldl (fun n c => 10 * n + (c.toNat - 48)) 0
    some (if negative then -(n : Int) else n)

/-- The longest text of an integer that is read. -/
def lengthLimit : Nat := 4300

/-- Whether a text starts with an integer in its plainest form, but a longer one than is read. -/
def isLongInt (s : List Char) : Bool :=
  let digits (s : List Char) : Nat := if s.head? = some '0' then 0 else (s.takeWhile Char.isDigit).length
  match s with
  | '-' :: rest => lengthLimit < digits rest + 1
  | _ => lengthLimit < digits s

/-- An integer as a setting may write it. -/
def intOfText (text : List Char) : Checked Int :=
  if isLongInt text then fail .unreadablyLongInt
  else
    let s := trim isWideSpace text
    let unsigned : Option (List Char) := match s with
      | '+' :: rest => if rest.head? = some '-' then none else some rest
      | _ => some s
    match unsigned.bind withoutZeros with
    | none => fail .unreadableInt
    | some s =>
      let s := withoutUnderscores (withoutFraction s)
      if lengthLimit < s.length then fail .unreadableInt
      else (plainInt? s).elim (fail .unreadableInt) .ok

def int : Json → Checked Int
  | .bool b => .ok (if b then 1 else 0)
  | .int n => .ok n
  | .float x =>
    match machineInt? x, wholeNumber? x with
    | some n, _ => .ok n
    | none, some _ => fail .unreadablyLongInt
    | none, none => if (Decimal.magnitude? x).isNone then fail .notFinite else fail .fractional
  | .str s => intOfText s.toList
  | _ => fail .notInt

/-- The settings of values by name. -/
def ofMembers (ms : List (String × Json)) : Checked Settings :=
  (optional (.plain "locale") "en" text ms).map Settings.mk
    |> (app · (optional (.plain "fallback_locale") "en" text ms))
    |> (app · (optional (.plain "translations_dir") none (nullable text) ms))
    |> (app · (optional (.plain "report_definition_path") none (nullable text) ms))
    |> (app · (optional (.plain "output_path") "metrics.jsonl" text ms))
    |> (app · (optional (.plain "metric_values_path") none (nullable text) ms))
    |> (app · (optional (.plain "evaluated_values_path") "computed_metrics.csv" text ms))
    |> (app · (optional (.plain "log_level") "INFO" text ms))
    |> (app · (optional (.plain "log_json") false bool ms))
    |> (app · (optional (.plain "metrics_server_enabled") false bool ms))
    |> (app · (optional (.plain "prometheus_port") 9300 int ms))

def toMembers (s : Settings) : List (String × Json) :=
  [("locale", .str s.locale), ("fallback_locale", .str s.fallbackLocale),
   ("translations_dir", optionalText s.translationsDir),
   ("report_definition_path", optionalText s.definitionPath),
   ("output_path", .str s.outputPath), ("metric_values_path", optionalText s.valuesPath),
   ("evaluated_values_path", .str s.evaluatedPath), ("log_level", .str s.logLevel),
   ("log_json", .bool s.logJson), ("metrics_server_enabled", .bool s.serverEnabled),
   ("prometheus_port", .int s.serverPort)]

/-- The settings among some variables, by name. Case does not matter, and of variables for one setting
the last counts, even if it has no value. -/
def fromVariables (found : List (String × Option String)) : List (String × Json) :=
  let head := variablePrefix.toList
  let named := found.filterMap fun (name, value) =>
    let name := lower name.toList
    if head.isPrefixOf name then some (String.ofList (name.drop head.length), value) else none
  (Table.ofList named).entries.filterMap fun (name, value) => value.map fun v => (name, .str v)

/-- The settings from the caller's values, the environment and the text of a file of variables. -/
def load (values : List (String × Json)) (environment : List (String × String))
    (file : List Char) : Checked Settings :=
  ofMembers (values ++ fromVariables (environment.map fun (name, v) => (name, some v)) ++
    fromVariables (EnvFile.parse environment file).entries)

end Settings

end Yardstick
