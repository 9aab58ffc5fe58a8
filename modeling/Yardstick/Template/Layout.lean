import Yardstick.Template.Basic

/-!
# Layout of a field

The layout of a field gives a width to fill, on which side and with what, and the most characters to
keep. It is written in the notation that numbers share, so signs and separators can be written but
are refused.
-/

namespace Yardstick.Template

open Yardstick.Text

inductive Alignment
  | left
  | right
  | center
  /-- Between a sign and the digits, which texts do not have. -/
  | numeric
  deriving Repr, DecidableEq

structure Layout where
  fill : Char
  alignment : Alignment
  sign : Option Char
  negativeZero : Bool
  alternate : Bool
  width : Option Nat
  separator : Option Char
  precision : Option Nat
  kind : Char
  deriving Repr, DecidableEq

/-- The greatest number that a template may hold. -/
def numberLimit : Nat := 0x7FFFFFFFFFFFFFFF

/-- A leading run of digits of any script, if there is one, and the rest. -/
def readNumber (value : Nat) : List Char → Except Cause (Nat × List Char)
  | [] => .ok (value, [])
  | c :: rest =>
    match digit? c with
    | none => .ok (value, c :: rest)
    | some d => if numberLimit < 10 * value + d then .error .hugeNumber
      else readNumber (10 * value + d) rest

def readNumber? (s : List Char) : Except Cause (Option Nat × List Char) :=
  match s with
  | [] => .ok (none, [])
  | c :: _ =>
    if (digit? c).isSome then (readNumber 0 s).map fun (n, s) => (some n, s) else .ok (none, s)

def alignment? (c : Char) : Option Alignment :=
  if c = '<' then some .left
  else if c = '>' then some .right
  else if c = '^' then some .center
  else if c = '=' then some .numeric
  else none

/-- A leading alignment, with or without a fill character. -/
def readAlignment (s : List Char) : Option Char × Alignment × List Char :=
  let plain : Option Char × Alignment × List Char :=
    match s with
    | c :: rest => ((alignment? c).map fun a => (none, a, rest)).getD (none, .left, s)
    | [] => (none, .left, s)
  match s with
  | c :: d :: rest => ((alignment? d).map fun a => (some c, a, rest)).getD plain
  | _ => plain

/-- A leading character that satisfies `p`. -/
def readMark (p : Char → Bool) (s : List Char) : Option Char × List Char :=
  match s with
  | c :: rest => if p c then (some c, rest) else (none, s)
  | [] => (none, [])

/-- The separators of thousands, of which one may be given. -/
def readSeparator (s : List Char) : Except Cause (Option Char × List Char) :=
  let (comma, s) := readMark (· = ',') s
  let (underscore, s) := readMark (· = '_') s
  match comma, underscore with
  | some _, some _ => .error .bothSeparators
  | none, some m => if s.head? = some ',' then .error .bothSeparators else .ok (some m, s)
  | m, none => .ok (m, s)

def readPrecision (s : List Char) : Except Cause (Option Nat × List Char) :=
  match s with
  | '.' :: rest =>
    match readNumber? rest with
    | .error e => .error e
    | .ok (none, _) => .error .noPrecision
    | .ok (some n, rest) => .ok (some n, rest)
  | _ => .ok (none, s)

/-- The last character of a layout, if one is left: a kind. -/
def readKind (spec s : List Char) : Except Cause Char :=
  match s with
  | [] => .ok 's'
  | [c] => .ok c
  | _ => .error (.badSpec (String.ofList spec))

/-- Whether a separator may stand beside a kind. -/
def takesSeparator (mark kind : Char) : Bool :=
  "defgEGF%\x00".toList.contains kind || (mark = '_' && "boxX".toList.contains kind)

def readLayout (spec : List Char) : Except Cause Layout := do
  let (fill, alignment, s) := readAlignment spec
  let (sign, s) := readMark (fun c => c = ' ' || c = '+' || c = '-') s
  let (negativeZero, s) := readMark (· = 'z') s
  let (alternate, s) := readMark (· = '#') s
  let (zero, s) := if fill.isNone then readMark (· = '0') s else (none, s)
  let (width, s) ← readNumber? s
  let (separator, s) ← readSeparator s
  let (precision, s) ← readPrecision s
  let kind ← readKind spec s
  match separator with
  | some mark => if !takesSeparator mark kind then throw (.separator mark kind)
  | none => pure ()
  return ⟨(fill.or zero).getD ' ', alignment, sign, negativeZero.isSome, alternate.isSome, width,
    separator, precision, kind⟩

/-- The first mark of a layout that texts refuse. -/
def Layout.refused? (l : Layout) : Option Cause :=
  if l.kind ≠ 's' then some (.unknownKind l.kind)
  else if l.sign = some ' ' then some .spaceSign
  else if l.sign.isSome then some .sign
  else if l.negativeZero then some .negativeZero
  else if l.alternate then some .alternate
  else if l.alignment = .numeric then some .numericAlignment
  else none

/-- The text cut to the precision and filled up to the width, however much room that takes. -/
def Layout.apply (l : Layout) (s : List Char) : List Char :=
  let s := match l.precision with
    | some p => s.take p
    | none => s
  let gap := l.width.getD 0 - s.length
  let before := match l.alignment with
    | .right => gap
    | .center => gap / 2
    | _ => 0
  List.replicate before l.fill ++ s ++ List.replicate (gap - before) l.fill

/-- A text laid out; without a layout it stays as it is. -/
def layOut (spec s : List Char) : Except Cause (List Char) :=
  if spec.isEmpty then .ok s
  else
    match readLayout spec with
    | .error e => .error e
    | .ok l => (l.refused?).elim (.ok (l.apply s)) .error

end Yardstick.Template
