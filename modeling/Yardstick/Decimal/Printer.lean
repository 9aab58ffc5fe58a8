import Yardstick.Decimal.Shortest
import Yardstick.Text.Digit

/-!
# Written doubles

A double is written with its shortest digits, positionally while the decimal exponent is from -4 to
15 and with a signed exponent otherwise.
-/

namespace Yardstick.Decimal

open Yardstick.Text

/-- How doubles are written. -/
structure FloatStyle where
  /-- Positional notation is used from this decimal exponent on, -/
  leastPositional : Int
  /-- and below this one. -/
  firstScientific : Int
  /-- A written exponent has at least this many digits. -/
  exponentDigits : Nat
  notANumber : String
  infinity : String

/-- The style of every double in messages, files and answers. -/
def plainStyle : FloatStyle := ⟨-4, 16, 2, "nan", "inf"⟩

/-- The digits with a point after the first `point` of them. -/
def placePoint (ds : List Char) (point : Int) : List Char :=
  if point ≤ 0 then '0' :: '.' :: List.replicate (-point).toNat '0' ++ ds
  else
    let n := point.toNat
    let whole := ds.take n ++ List.replicate (n - ds.length) '0'
    let part := ds.drop n
    whole ++ '.' :: (if part.isEmpty then ['0'] else part)

/-- The first digit, the others after a point, and the exponent with its sign. -/
def withExponent (f : FloatStyle) (ds : List Char) (e : Int) : List Char :=
  let lead := ds.take 1 ++ (if ds.length ≤ 1 then [] else '.' :: ds.drop 1)
  let shown := natText e.natAbs
  lead ++ 'e' :: (if e < 0 then '-' else '+') ::
    List.replicate (f.exponentDigits - shown.length) '0' ++ shown

/-- A decimal of at least one digit. -/
def Scientific.write (f : FloatStyle) (d : Scientific) : List Char :=
  let ds := natText d.digits
  let e : Int := d.exponent + ds.length - 1
  if f.leastPositional ≤ e && e < f.firstScientific then placePoint ds (e + 1)
  else withExponent f ds e

/-- The text of a double. -/
def floatChars (f : FloatStyle) (x : Float) : List Char :=
  let sign := if isNegative x then ['-'] else []
  match magnitude? x with
  | some ⟨0, _⟩ => sign ++ ['0', '.', '0']
  | some m => sign ++ m.shortest.write f
  | none => if x.isNaN then f.notANumber.toList else sign ++ f.infinity.toList

def floatText (x : Float) : String := String.ofList (floatChars plainStyle x)

end Yardstick.Decimal
