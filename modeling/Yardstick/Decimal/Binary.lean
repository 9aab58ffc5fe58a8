/-!
# Doubles as whole numbers

A finite double is a mantissa times a power of two. `ofRatio` rounds an exact quotient of whole
numbers to the nearest double, a tie to the even mantissa; it is how every decimal and every integer
becomes a double.
-/

namespace Yardstick.Decimal

/-- A power of two. -/
def twoTo (k : Nat) : Nat := Nat.pow 2 k

/-- A power of ten. -/
def tenTo (k : Nat) : Nat := Nat.pow 10 k

/-- Exponent of the smallest positive double. -/
def minExponent : Int := -1074

/-- The absolute value of a finite double: `mantissa * 2 ^ exponent`, with a mantissa below `2 ^ 53`. -/
structure Magnitude where
  mantissa : Nat
  exponent : Int
  deriving Repr, DecidableEq

def isNegative (x : Float) : Bool := x.toBits.toNat / twoTo 63 = 1

/-- The absolute value of a double, or `none` for an infinity or not-a-number. -/
def magnitude? (x : Float) : Option Magnitude :=
  let bits : Nat := x.toBits.toNat
  let field : Nat := bits / twoTo 52 % twoTo 11
  let fraction : Nat := bits % twoTo 52
  if field = 2047 then none
  else if field = 0 then some ⟨fraction, minExponent⟩
  else some ⟨twoTo 52 + fraction, Int.ofNat field - 1 + minExponent⟩

/-- The double of a mantissa below `2 ^ 53`, normal unless the exponent is the least one. -/
def Magnitude.toBits (m : Magnitude) : Nat :=
  if m.mantissa < twoTo 52 then m.mantissa
  else (m.exponent - minExponent + 1).toNat * twoTo 52 + (m.mantissa - twoTo 52)

def infinityBits : Nat := 2047 * twoTo 52

/-- The quotient rounded to a whole number, a tie to the even one. -/
def roundHalfEven (num den : Nat) : Nat :=
  let q := num / den
  let r := num % den
  if 2 * r < den then q
  else if den < 2 * r then q + 1
  else if q % 2 = 0 then q else q + 1

/-- The largest `e` with `2 ^ e ≤ num / den`, for a positive quotient. -/
def log2Ratio (num den : Nat) : Int :=
  let e : Int := (num.log2 : Int) - den.log2
  let fits : Bool :=
    if 0 ≤ e then den * twoTo e.toNat ≤ num else den ≤ num * twoTo (-e).toNat
  if fits then e else e - 1

/-- The magnitude nearest to `num / den`, before a look at the largest exponent. -/
def nearest (num den : Nat) : Magnitude :=
  let wanted : Int := log2Ratio num den - 52
  let e : Int := if wanted < minExponent then minExponent else wanted
  let m :=
    if 0 ≤ e then roundHalfEven num (den * twoTo e.toNat)
    else roundHalfEven (num * twoTo (-e).toNat) den
  if m = twoTo 53 then ⟨twoTo 52, e + 1⟩ else ⟨m, e⟩

/-- The bits of the double nearest to `num / den`, or `none` if that is beyond the finite ones. -/
def ratioBits? (num den : Nat) : Option Nat :=
  if num = 0 then some 0
  else
    let m := nearest num den
    if 971 < m.exponent then none else some m.toBits

def withSign (negative : Bool) (bits : Nat) : Float :=
  Float.ofBits (UInt64.ofNat (if negative then twoTo 63 + bits else bits))

/-- The double nearest to `± num / den`; beyond the finite doubles, an infinity. -/
def ofRatio (negative : Bool) (num den : Nat) : Float :=
  withSign negative ((ratioBits? num den).getD infinityBits)

/-- The double nearest to an integer, if one is finite. -/
def ofInt? (n : Int) : Option Float :=
  (ratioBits? n.natAbs 1).map (withSign (n < 0))

/-- The double nearest to `± mantissa * 10 ^ exponent`. Exponents far out of range are settled by the
number of digits, so that no huge power is formed. -/
def ofDecimal (negative : Bool) (mantissa : Nat) (exponent : Int) : Float :=
  if mantissa = 0 then withSign negative 0
  else
    let digits : Int := (Nat.toDigits 10 mantissa).length
    if 400 < exponent + digits then withSign negative infinityBits
    else if exponent + digits < -400 then withSign negative 0
    else if 0 ≤ exponent then ofRatio negative (mantissa * tenTo exponent.toNat) 1
    else ofRatio negative mantissa (tenTo (-exponent).toNat)

end Yardstick.Decimal
