import Yardstick.Decimal.Binary

/-!
# Shortest digits

The decimal digits of a double are the fewest that read back as it, and of those the nearest. For
one digit, two digits and so on, the two neighbours of the double on the decimal grid are tested: if
any point of a grid reads back, one of the two does.
-/

namespace Yardstick.Decimal

/-- A positive decimal: `digits * 10 ^ exponent`. -/
structure Scientific where
  digits : Nat
  exponent : Int
  deriving Repr, DecidableEq

/-- The value as a quotient, times `2 ^ 2` so that half steps are whole. -/
structure Span where
  /-- Four times the mantissa. -/
  value : Nat
  /-- The least and the greatest point that still read back. -/
  low : Nat
  high : Nat
  /-- Whether the two ends themselves read back. -/
  closed : Bool
  /-- All three are to be divided by this. -/
  den : Nat
  deriving Repr, DecidableEq

/-- The reals that round to a positive double, over one denominator. Below a power of two the next
double is only half as far away. -/
def Magnitude.span (m : Magnitude) : Span :=
  let atPower := m.mantissa = twoTo 52 && minExponent < m.exponent
  let value := 4 * m.mantissa
  let low := value - (if atPower then 1 else 2)
  let high := value + 2
  let closed := m.mantissa % 2 = 0
  let e := m.exponent - 2
  if 0 ≤ e then
    let p := twoTo e.toNat
    ⟨value * p, low * p, high * p, closed, 1⟩
  else ⟨value, low, high, closed, twoTo (-e).toNat⟩

/-- Whether `k` grid steps of `num / den` read back. -/
def Span.holds (s : Span) (k num den : Nat) : Bool :=
  let x := k * num * s.den
  if s.closed then s.low * den ≤ x && x ≤ s.high * den
  else s.low * den < x && x < s.high * den

/-- The step of a grid, as a quotient. -/
def gridStep (e : Int) : Nat × Nat :=
  if 0 ≤ e then (tenTo e.toNat, 1) else (1, tenTo (-e).toNat)

/-- The point of the grid with step `10 ^ e` that reads back, if there is one, and of two the nearer
one; of two equally near the even one. -/
def Span.onGrid? (s : Span) (e : Int) : Option Nat :=
  let (num, den) := gridStep e
  let k := s.value * den / (s.den * num)
  match s.holds k num den, s.holds (k + 1) num den with
  | true, false => some k
  | false, true => some (k + 1)
  | false, false => none
  | true, true =>
    let below := s.value * den - k * num * s.den
    let above := (k + 1) * num * s.den - s.value * den
    if below < above then some k
    else if above < below then some (k + 1)
    else if k % 2 = 0 then some k else some (k + 1)

/-- The least `e` with `value < 10 ^ e`, found upwards from a lower bound. -/
def Span.decimalPoint (s : Span) : Nat → Int → Int
  | 0, e => e
  | fuel + 1, e =>
    let (num, den) := gridStep e
    if s.value * den < s.den * num then e else s.decimalPoint fuel (e + 1)

/-- Tries grids of ever smaller steps. -/
def Span.firstGrid (s : Span) : Nat → Int → Scientific
  | 0, e => ⟨s.value / s.den, e⟩
  | fuel + 1, e =>
    match s.onGrid? e with
    | some k => ⟨k, e⟩
    | none => s.firstGrid fuel (e - 1)

/-- Moves the trailing zeros of the digits into the exponent. -/
def stripZeros : Nat → Scientific → Scientific
  | 0, d => d
  | fuel + 1, d =>
    if d.digits ≠ 0 && d.digits % 10 = 0 then stripZeros fuel ⟨d.digits / 10, d.exponent + 1⟩ else d

/-- The shortest decimal that reads back as a positive magnitude. -/
def Magnitude.shortest (m : Magnitude) : Scientific :=
  let s := m.span
  let guess : Int := ((m.mantissa.log2 : Int) + m.exponent) * 30103 / 100000 - 1
  let point := s.decimalPoint 8 guess
  stripZeros 20 (s.firstGrid 17 (point - 1))

end Yardstick.Decimal
