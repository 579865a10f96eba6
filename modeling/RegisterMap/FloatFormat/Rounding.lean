import RegisterMap.FloatFormat.Basic

/-! # Rounding to a floating-point format

An exact magnitude is a quotient of natural numbers. `FloatFormat.round` gives the pattern of the
nearest number of the format; a tie goes to the pattern that is even, and what lies beyond the
largest finite number by half a unit or more becomes infinite.

Conversions between formats and from integers are instances: the exact number, rounded once. -/

namespace RegisterMap

/-- `n / d` to the nearest integer, a tie to the even one. -/
def roundDiv (n d : Nat) : Nat :=
  let quotient := n / d
  let rest := n % d
  if 2 * rest < d then quotient
  else if d < 2 * rest then quotient + 1
  else quotient + quotient % 2

/-- `n * 2 ^ e` as a quotient of natural numbers. -/
def scaled (n : Nat) (e : Int) : Nat × Nat :=
  (n * Nat.pow 2 e.toNat, Nat.pow 2 (-e).toNat)

/-- The largest `e` with `2 ^ e ≤ num / den`, for a positive quotient. -/
def binaryExponent (num den : Nat) : Int :=
  let e : Int := (num.log2 : Int) - den.log2
  if den * Nat.pow 2 e.toNat ≤ num * Nat.pow 2 (-e).toNat then e else e - 1

namespace FloatFormat

/-- The pattern of the number nearest to `num / den`, without a sign. In a pattern the exponent
    field stands above the fraction, so that a fraction that rounds up to the next power of two
    carries into it, and at the end into infinity. -/
def round (f : FloatFormat) (num den : Nat) : Nat :=
  if num = 0 then
    0
  else
    let unit := max (binaryExponent num den - f.fractionBits) f.minExponent
    let fraction := roundDiv (num * Nat.pow 2 (-unit).toNat) (den * Nat.pow 2 unit.toNat)
    min ((unit - f.minExponent).toNat * Nat.pow 2 f.fractionBits + fraction) f.infinity

/-- The pattern nearest to an integer. -/
def ofInt (f : FloatFormat) (i : Int) : Nat :=
  f.signed (i < 0) (f.round i.natAbs 1)

/-- Whether the finite magnitude `mantissa * 2 ^ exponent` is above every finite number of the
    format. -/
def exceeds (f : FloatFormat) (mantissa : Nat) (exponent : Int) : Bool :=
  match f.decode (f.infinity - 1) with
  | .finite _ top topExponent =>
    let (num, den) := scaled mantissa (exponent - topExponent)
    top * den < num
  | _ => false

/-- The pattern of `target` nearest to the number of a pattern of `source`. A NaN that changes its
    format keeps its sign and the leading bits of its fraction, and becomes quiet. -/
def convert (source target : FloatFormat) (bits : Nat) : Nat :=
  if source = target then
    bits
  else
    let negative := source.isNegative bits
    match source.decode bits with
    | .nan =>
      let fraction := bits % Nat.pow 2 source.fractionBits
      let kept := fraction * Nat.pow 2 (target.fractionBits - source.fractionBits)
        / Nat.pow 2 (source.fractionBits - target.fractionBits)
      let quiet := if kept < target.quietBit then kept + target.quietBit else kept
      target.signed negative (target.infinity + quiet)
    | .infinite _ => target.signed negative target.infinity
    | .finite _ mantissa exponent =>
      let (num, den) := scaled mantissa exponent
      target.signed negative (target.round num den)

/-- The number of a pattern without its fractional part, if it is finite. -/
def truncate? (f : FloatFormat) (bits : Nat) : Option Int :=
  match f.decode bits with
  | .finite negative mantissa exponent =>
    let (num, den) := scaled mantissa exponent
    let whole : Int := num / den
    some (if negative then -whole else whole)
  | _ => none

end FloatFormat

end RegisterMap
