import RegisterMap.FloatFormat.Shortest

/-! # Text of floating-point numbers

Numbers are printed with their shortest digits, in plain decimal notation or with an exponent. The
choice and the spelling are the fields of a `FloatLayout`. -/

namespace RegisterMap

/-- How a number is laid out around its digits. -/
structure FloatLayout where
  /-- The smallest decimal exponent that is written without an exponent part. -/
  leastPlain : Int
  /-- The first decimal exponent above the plain ones. -/
  endPlain : Int
  /-- The least number of digits of an exponent. -/
  exponentDigits : Nat
  nan : String
  positiveInfinity : String
  negativeInfinity : String

/-- Numbers from a ten-thousandth up to a million are plain decimals, all others have an exponent
    with a sign and at least two digits. -/
def FloatLayout.general : FloatLayout where
  leastPlain := -4
  endPlain := 6
  exponentDigits := 2
  nan := "NaN"
  positiveInfinity := "+Inf"
  negativeInfinity := "-Inf"

namespace FloatLayout

/-- One digit, the others after a point, and the exponent. -/
def withExponent (layout : FloatLayout) (d : DecimalDigits) : List Char :=
  let exponent := d.point - 1
  let mantissa := match d.digits.map Numeral.digitChar with
    | [] => ['0']
    | [c] => [c]
    | c :: cs => c :: '.' :: cs
  let sign := if exponent < 0 then '-' else '+'
  mantissa ++ 'e' :: sign ::
    Numeral.zeroPadded layout.exponentDigits (Numeral.chars 10 exponent.natAbs)

/-- The digits around the decimal point, with the zeros that are needed to reach it. -/
def plain (d : DecimalDigits) : List Char :=
  let cs := d.digits.map Numeral.digitChar
  if d.point ≤ 0 then
    if cs.isEmpty then ['0'] else '0' :: '.' :: List.replicate (-d.point).toNat '0' ++ cs
  else
    let whole := cs.take d.point.toNat
    let padded := whole ++ List.replicate (d.point.toNat - whole.length) '0'
    match cs.drop d.point.toNat with
    | [] => padded
    | fraction => padded ++ '.' :: fraction

/-- A finite magnitude in the notation its size asks for. -/
def magnitude (layout : FloatLayout) (d : DecimalDigits) : List Char :=
  let exponent := d.point - 1
  if !d.digits.isEmpty && (exponent < layout.leastPlain || layout.endPlain ≤ exponent) then
    layout.withExponent d
  else
    plain d

/-- The text of the number of a pattern. -/
def render (layout : FloatLayout) (f : FloatFormat) (bits : Nat) : String :=
  match f.decode bits with
  | .nan => layout.nan
  | .infinite false => layout.positiveInfinity
  | .infinite true => layout.negativeInfinity
  | .finite negative mantissa exponent =>
    let text := layout.magnitude (f.shortest mantissa exponent)
    String.ofList (if negative then '-' :: text else text)

end FloatLayout

end RegisterMap
