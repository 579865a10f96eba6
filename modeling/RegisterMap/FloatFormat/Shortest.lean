import RegisterMap.FloatFormat.Rounding
import RegisterMap.Numeral.Digits

/-! # Shortest decimal digits

The digits printed for a floating-point number are the fewest that round back to it, and among
those the nearest to the exact number; a tie goes to the even last digit. The search tries one
digit, two digits and so on: on each decimal grid only the two neighbours of the number matter. -/

namespace RegisterMap

/-- The decimal number `0.d₁d₂… * 10 ^ point` with the given digits. -/
structure DecimalDigits where
  digits : List Nat
  point : Int
  deriving DecidableEq, Repr

/-- The numbers that round to one floating-point number, over a common denominator: all between
    `low` and `high`, the ends included if `closed`. -/
structure RoundingInterval where
  low : Nat
  value : Nat
  high : Nat
  den : Nat
  closed : Bool

namespace RoundingInterval

/-- Whether `num / den` lies in the interval. -/
def contains (i : RoundingInterval) (num den : Nat) : Bool :=
  let x := num * i.den
  if i.closed then i.low * den ≤ x && x ≤ i.high * den else i.low * den < x && x < i.high * den

end RoundingInterval

namespace FloatFormat

/-- The interval of the positive number `mantissa * 2 ^ exponent`. Below a power of two the numbers
    lie twice as close, except at the smallest exponent. -/
def interval (f : FloatFormat) (mantissa : Nat) (exponent : Int) : RoundingInterval :=
  let gapBelow := if mantissa = Nat.pow 2 f.fractionBits ∧ f.minExponent < exponent then 1 else 2
  let (num, den) := scaled 1 (exponent - 2)
  { low := (4 * mantissa - gapBelow) * num
    value := 4 * mantissa * num
    high := (4 * mantissa + 2) * num
    den := den
    closed := mantissa % 2 == 0 }

end FloatFormat

/-- `num / den` as `a / b` with the decimal point moved `e` places to the right. -/
def shiftDecimal (num den : Nat) (e : Int) : Nat × Nat :=
  (num * Nat.pow 10 e.toNat, den * Nat.pow 10 (-e).toNat)

/-- The number of digits before the decimal point of a positive quotient, negative or zero if it
    starts with zeros after the point: the `p` with `10 ^ (p - 1) ≤ num / den < 10 ^ p`. -/
def decimalPoint (num den : Nat) : Int :=
  let guess : Int := ((num.log2 : Int) - den.log2) * 30103 / 100000
  let atLeast (p : Int) : Bool :=
    let (a, b) := shiftDecimal num den (-p)
    b ≤ a
  if atLeast (guess + 1) then guess + 2
  else if atLeast guess then guess + 1
  else if atLeast (guess - 1) then guess
  else guess - 1

/-- The nearest point with `count` digits in the interval, if one of the value's two neighbours on
    that grid lies in it. -/
def RoundingInterval.withDigits? (i : RoundingInterval) (point : Int) (count : Nat) : Option Nat :=
  let unit : Int := point - count
  let (num, den) := shiftDecimal i.value i.den (-unit)
  let below := num / den
  let inside (n : Nat) : Bool :=
    let (a, b) := shiftDecimal n 1 unit
    i.contains a b
  let rest := num % den
  match inside below, inside (below + 1) with
  | true, true =>
    if 2 * rest < den then some below
    else if den < 2 * rest then some (below + 1)
    else some (below + below % 2)
  | true, false => some below
  | false, true => some (below + 1)
  | false, false => none

/-- The first digit count from `count` on, with at most `fuel` tries, on whose grid a point lies in
    the interval, and that point. -/
def RoundingInterval.search (i : RoundingInterval) (point : Int) :
    (fuel : Nat) → (count : Nat) → Nat × Nat
  | 0, count => (count, 0)
  | fuel + 1, count =>
    match i.withDigits? point count with
    | some n => (count, n)
    | none => i.search point fuel (count + 1)

/-- Drops zeros at the end of a list of digits. -/
def dropTrailingZeros (ds : List Nat) : List Nat :=
  (ds.reverse.dropWhile (· == 0)).reverse

namespace FloatFormat

/-- The shortest digits of the finite magnitude `mantissa * 2 ^ exponent`; none for zero. Twenty
    tries are enough for a format of at most 64 bits. -/
def shortest (f : FloatFormat) (mantissa : Nat) (exponent : Int) : DecimalDigits :=
  if mantissa = 0 then
    ⟨[], 0⟩
  else
    let i := f.interval mantissa exponent
    let point := decimalPoint i.value i.den
    let (count, n) := i.search point 20 1
    let ds := Numeral.digits 10 n
    ⟨dropTrailingZeros ds, point - count + ds.length⟩

end FloatFormat

end RegisterMap
