import RegisterMap.Bytes.BigEndian
import RegisterMap.Numeral.Digits
import RegisterMap.Text.Printable

/-! # Payloads in hexadecimal

A payload is typed as hexadecimal digits, in one text or several, with an optional base mark at the
start. Blanks, tabs and colons may stand anywhere and do not count. -/

namespace RegisterMap.HexText

/-- Why a text is no payload. -/
inductive HexError where
  /-- The first byte of the text that is no digit. -/
  | invalidByte (byte : Nat)
  | oddLength
  deriving DecidableEq, Repr

/-- The error in words. A printable byte is shown as a character too. -/
def HexError.message : HexError → String
  | invalidByte b =>
    let c := Char.ofNat b
    let shown := if Text.isPrintable c then String.ofList [' ', Char.ofNat 39, c, Char.ofNat 39] else ""
    "encoding/hex: invalid byte: U+" ++ Numeral.hexPadded 4 b ++ shown
  | oddLength => "encoding/hex: odd length hex string"

/-- The value of a hexadecimal digit. -/
def digit? (c : Char) : Option Nat :=
  match Numeral.digitValue? c with
  | some d => if d < 16 then some d else none
  | none => none

/-- The first byte of a character in UTF-8. -/
def firstByte (c : Char) : Nat :=
  let n := c.toNat
  if n < 0x80 then n
  else if n < 0x800 then 0xC0 + n / 0x40
  else if n < 0x10000 then 0xE0 + n / 0x1000
  else 0xF0 + n / 0x40000

/-- The characters that separate digits. -/
def isSeparator (c : Char) : Bool :=
  c == ' ' || c == ':' || c == '\t'

/-- Removes a mark at the start of a text. -/
def withoutMark (a b : Char) : List Char → List Char
  | c :: d :: cs => if c = a ∧ d = b then cs else c :: d :: cs
  | cs => cs

/-- The digits of a text: without separators, and without a lower-case and then an upper-case base
    mark at the start. -/
def digitsOf (text : List Char) : List Char :=
  withoutMark '0' 'X' (withoutMark '0' 'x' (text.filter fun c => !isSeparator c))

/-- Decodes digits in pairs. A wrong digit is reported before an odd number of them. -/
def decode : List Char → Except HexError Bytes
  | [] => .ok []
  | [c] =>
    match digit? c with
    | none => .error (.invalidByte (firstByte c))
    | some _ => .error .oddLength
  | c :: d :: cs =>
    match digit? c, digit? d with
    | none, _ => .error (.invalidByte (firstByte c))
    | some _, none => .error (.invalidByte (firstByte d))
    | some a, some b =>
      match decode cs with
      | .error e => .error e
      | .ok bytes => .ok (UInt8.ofNat (16 * a + b) :: bytes)

/-- The payload given by several texts. -/
def parse (texts : List String) : Except HexError Bytes :=
  decode (digitsOf (texts.flatMap String.toList))

end RegisterMap.HexText
