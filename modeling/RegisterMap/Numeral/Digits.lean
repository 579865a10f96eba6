/-! # Digits of natural numbers

`Numeral.digits` lists the digits of a number, most significant first, without leading zeros
(zero itself is the one digit `0`). Everything the library prints about integers goes through it:
decimal numbers with a sign, and upper-case hexadecimal numbers padded to a width. -/

namespace RegisterMap.Numeral

/-- The loop of `digits`: `n` has at most `fuel` digits, and `acc` holds those already split off. -/
def digitsOnto (base : Nat) : (fuel : Nat) → (n : Nat) → (acc : List Nat) → List Nat
  | 0, _, acc => acc
  | fuel + 1, n, acc =>
    if n < base then n :: acc else digitsOnto base fuel (n / base) (n % base :: acc)

/-- The digits of `n` in `base`, most significant first. -/
def digits (base n : Nat) : List Nat :=
  digitsOnto base (n + 1) n []

def ofDigits (base : Nat) (ds : List Nat) : Nat :=
  ds.foldl (fun n d => n * base + d) 0

/-- The upper-case character of a digit below 16. -/
def digitChar (d : Nat) : Char :=
  if d < 10 then Char.ofNat (48 + d) else Char.ofNat (55 + d)

/-- The value of a digit character of any base up to 36, in either case. -/
def digitValue? (c : Char) : Option Nat :=
  if '0' ≤ c ∧ c ≤ '9' then some (c.toNat - 48)
  else if 'a' ≤ c ∧ c ≤ 'z' then some (c.toNat - 87)
  else if 'A' ≤ c ∧ c ≤ 'Z' then some (c.toNat - 55)
  else none

/-- The text of `n` in `base` (at most 16), in upper case. -/
def chars (base n : Nat) : List Char :=
  (digits base n).map digitChar

/-- `n` in base ten. -/
def decimal (n : Nat) : String :=
  String.ofList (chars 10 n)

/-- `i` in base ten, with a minus sign in front of a negative number. -/
def signedDecimal (i : Int) : String :=
  if i < 0 then "-" ++ decimal i.natAbs else decimal i.natAbs

/-- `cs` filled up with zeros in front to at least `width` characters. -/
def zeroPadded (width : Nat) (cs : List Char) : List Char :=
  List.replicate (width - cs.length) '0' ++ cs

/-- `n` in upper-case hexadecimal with at least `width` digits. -/
def hexPadded (width n : Nat) : String :=
  String.ofList (zeroPadded width (chars 16 n))

/-- `n` in upper-case hexadecimal. -/
def hex (n : Nat) : String :=
  String.ofList (chars 16 n)

/-- The text of a byte string: two upper-case digits a byte, a blank between the bytes. -/
def spacedHex (bytes : List UInt8) : String :=
  " ".intercalate (bytes.map fun b => hexPadded 2 b.toNat)

end RegisterMap.Numeral
