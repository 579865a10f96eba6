import RegisterMap.Numeral.Digits
import RegisterMap.Text.Printable

/-! # Quoted text

Messages quote foreign text in double quotes and single characters in apostrophes. A printable
character stands for itself, except the mark around it and the backslash; the usual control
characters have a letter after a backslash, and any other character is written by its code point in
lower-case hexadecimal. -/

namespace RegisterMap.Text

/-- `n` in lower-case hexadecimal with at least `width` digits. -/
def lowerHex (width n : Nat) : List Char :=
  (Numeral.zeroPadded width (Numeral.chars 16 n)).map Char.toLower

/-- A character between two marks. -/
def quotedChar (mark c : Char) : List Char :=
  if c == mark || c == '\\' then ['\\', c]
  else if isPrintable c then [c]
  else if c.toNat == 7 then ['\\', 'a']
  else if c.toNat == 8 then ['\\', 'b']
  else if c.toNat == 12 then ['\\', 'f']
  else if c.toNat == 10 then ['\\', 'n']
  else if c.toNat == 13 then ['\\', 'r']
  else if c.toNat == 9 then ['\\', 't']
  else if c.toNat == 11 then ['\\', 'v']
  else if c.toNat < 128 then '\\' :: 'x' :: lowerHex 2 c.toNat
  else if c.toNat < 0x10000 then '\\' :: 'u' :: lowerHex 4 c.toNat
  else '\\' :: 'U' :: lowerHex 8 c.toNat

/-- A text in double quotes. -/
def quoted (s : String) : String :=
  String.ofList ('"' :: s.toList.flatMap (quotedChar '"') ++ ['"'])

/-- A character in apostrophes. -/
def quotedLetter (c : Char) : String :=
  let mark := Char.ofNat 39
  String.ofList (mark :: quotedChar mark c ++ [mark])

end RegisterMap.Text
