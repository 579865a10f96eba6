/-! # Binary floating-point formats

A format is given by the widths of its fraction and exponent fields; the two formats in use are
`binary32` and `binary64`. A number of the format is handled as its bit pattern, a natural number
below `2 ^ width`, and `decode` says which number a pattern stands for. -/

namespace RegisterMap

/-- The layout of a binary floating-point format: sign bit, exponent field, fraction field. -/
structure FloatFormat where
  fractionBits : Nat
  exponentBits : Nat
  deriving DecidableEq, Repr

/-- What a bit pattern stands for. A finite number is `mantissa * 2 ^ exponent`, with its sign
    apart because zero has one. -/
inductive FloatNumber where
  | nan
  | infinite (negative : Bool)
  | finite (negative : Bool) (mantissa : Nat) (exponent : Int)
  deriving DecidableEq, Repr

namespace FloatFormat

/-- Single precision. -/
def binary32 : FloatFormat := ⟨23, 8⟩

/-- Double precision. -/
def binary64 : FloatFormat := ⟨52, 11⟩

/-- The number of bits of a pattern. -/
def width (f : FloatFormat) : Nat :=
  1 + f.exponentBits + f.fractionBits

/-- The weight of the sign bit. -/
def signBit (f : FloatFormat) : Nat :=
  Nat.pow 2 (f.exponentBits + f.fractionBits)

/-- The pattern of positive infinity. -/
def infinity (f : FloatFormat) : Nat :=
  (Nat.pow 2 f.exponentBits - 1) * Nat.pow 2 f.fractionBits

/-- The highest bit of the fraction, set in every quiet NaN. -/
def quietBit (f : FloatFormat) : Nat :=
  Nat.pow 2 (f.fractionBits - 1)

/-- The binary exponent of the lowest fraction bit of the smallest numbers. -/
def minExponent (f : FloatFormat) : Int :=
  2 - Nat.pow 2 (f.exponentBits - 1) - f.fractionBits

/-- The pattern with the given sign and magnitude. -/
def signed (f : FloatFormat) (negative : Bool) (magnitude : Nat) : Nat :=
  if negative then f.signBit + magnitude else magnitude

/-- Whether the sign bit of a pattern is set. -/
def isNegative (f : FloatFormat) (bits : Nat) : Bool :=
  bits / f.signBit % 2 == 1

/-- The pattern without its sign. -/
def magnitude (f : FloatFormat) (bits : Nat) : Nat :=
  bits % f.signBit

/-- The number a pattern stands for. -/
def decode (f : FloatFormat) (bits : Nat) : FloatNumber :=
  let negative := f.isNegative bits
  let exponentField := f.magnitude bits / Nat.pow 2 f.fractionBits
  let fraction := f.magnitude bits % Nat.pow 2 f.fractionBits
  if exponentField = Nat.pow 2 f.exponentBits - 1 then
    if fraction = 0 then .infinite negative else .nan
  else if exponentField = 0 then
    .finite negative fraction f.minExponent
  else
    .finite negative (Nat.pow 2 f.fractionBits + fraction) (f.minExponent + (exponentField - 1))

end FloatFormat

end RegisterMap
