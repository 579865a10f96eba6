import RegisterMap.FloatFormat.Rounding
import RegisterMap.Numeral.Integer

/-! # Floating-point literals

A floating-point literal is one of the words for infinity and NaN, or digits with an optional point
and exponent: decimal digits with a power of ten after `e`, or, after `0x`, hexadecimal digits
with a power of two after `p`, which then has to be there. Single underscores may stand between
digits and after `0x`.

The literal stands for an exact number, which is rounded once to the format. A number beyond the
format is out of range; one too small for it is zero. -/

namespace RegisterMap.Numeral

/-- The number a literal stands for: `mantissa * base ^ exponent`, where the base is two or ten. -/
inductive RealLiteral where
  | nan
  | infinite (negative : Bool)
  | decimal (negative : Bool) (mantissa : Nat) (exponent : Int)
  | binary (negative : Bool) (mantissa : Nat) (exponent : Int)
  deriving DecidableEq, Repr

/-- The digits of a literal as far as they were read. -/
structure DigitRun where
  mantissa : Nat := 0
  /-- How many digits were read. -/
  count : Nat := 0
  /-- How many of them stood after the point. -/
  afterPoint : Nat := 0
  point : Bool := false
  deriving Repr

/-- Reads digits with at most one point between them, and skips underscores. Returns what is
    left. -/
def readDigitRun (hexadecimal : Bool) : DigitRun → List Char → DigitRun × List Char
  | run, [] => (run, [])
  | run, c :: cs =>
    if c == '_' then
      readDigitRun hexadecimal run cs
    else if c == '.' && !run.point then
      readDigitRun hexadecimal { run with point := true } cs
    else
      match digitValue? c with
      | none => (run, c :: cs)
      | some d =>
        let base := if hexadecimal then 16 else 10
        if d < base then
          readDigitRun hexadecimal
            { run with
              mantissa := run.mantissa * base + d
              count := run.count + 1
              afterPoint := run.afterPoint + if run.point then 1 else 0 } cs
        else
          (run, c :: cs)

/-- Reads the digits of an exponent after the number `acc`. Digits beyond a magnitude that no
    format reaches do not count. -/
def readExponentDigits : (acc : Nat) → List Char → Nat × List Char
  | acc, [] => (acc, [])
  | acc, c :: cs =>
    if c == '_' then readExponentDigits acc cs
    else if c.isDigit then
      readExponentDigits (if acc < 10000 then acc * 10 + (c.toNat - 48) else acc) cs
    else (acc, c :: cs)

/-- Reads an exponent after its letter: a sign and at least one digit. -/
def readExponent? (cs : List Char) : Option (Int × List Char) :=
  let digits := withoutSign cs
  match digits with
  | c :: _ =>
    if c.isDigit then
      let (n, rest) := readExponentDigits 0 digits
      some (if cs.head? == some '-' then -n else n, rest)
    else
      none
  | [] => none

/-- Whether `cs` equals the lower-case `word`, but for the case of ASCII letters. -/
def isWord (word : String) (cs : List Char) : Bool :=
  cs.map lowered == word.toList

/-- The words for infinity, with an optional sign, and for NaN, without. -/
def readSpecial? (text : List Char) : Option RealLiteral :=
  let word := withoutSign text
  if isWord "inf" word || isWord "infinity" word then
    some (.infinite (text.head? == some '-'))
  else if isWord "nan" text then
    some .nan
  else
    none

/-- Reads a number written with digits. -/
def readDigits? (text : List Char) : Option RealLiteral :=
  let negative := text.head? == some '-'
  let body := withoutSign text
  let (hexadecimal, digits) := match body with
    | '0' :: mark :: c :: cs => if lowered mark == 'x' then (true, c :: cs) else (false, body)
    | _ => (false, body)
  let (run, rest) := readDigitRun hexadecimal {} digits
  if run.count = 0 then
    none
  else
    let exponent? : Option (Int × List Char) := match rest with
      | c :: cs =>
        if lowered c == (if hexadecimal then 'p' else 'e') then readExponent? cs
        else if hexadecimal then none
        else some (0, rest)
      | [] => if hexadecimal then none else some (0, [])
    match exponent? with
    | some (exponent, []) =>
      if text.contains '_' && !separatorsPlaced text then
        none
      else if hexadecimal then
        some (.binary negative run.mantissa (exponent - 4 * run.afterPoint))
      else
        some (.decimal negative run.mantissa (exponent - run.afterPoint))
    | _ => none

/-- The number a text stands for, if it is a literal. -/
def readReal? (text : List Char) : Option RealLiteral :=
  match readSpecial? text with
  | some literal => some literal
  | none => readDigits? text

namespace RealLiteral

/-- The double-precision pattern of the NaN literal: quiet, with the lowest fraction bit set. -/
def nanBits : Nat :=
  FloatFormat.binary64.infinity + FloatFormat.binary64.quietBit + 1

/-- The pattern of the format nearest to the literal's number. A finite literal that would become
    infinite has none. -/
def toBits? (f : FloatFormat) : RealLiteral → Option Nat
  | nan => some (FloatFormat.binary64.convert f nanBits)
  | infinite negative => some (f.signed negative f.infinity)
  | decimal negative mantissa exponent =>
    finite negative (f.round (mantissa * Nat.pow 10 exponent.toNat) (Nat.pow 10 (-exponent).toNat))
  | binary negative mantissa exponent =>
    finite negative (f.round (mantissa * Nat.pow 2 exponent.toNat) (Nat.pow 2 (-exponent).toNat))
where
  finite (negative : Bool) (magnitude : Nat) : Option Nat :=
    if magnitude = f.infinity then none else some (f.signed negative magnitude)

end RealLiteral

end RegisterMap.Numeral
