import RegisterMap.Text.Case

/-! # Documentation of declarations

The documentation in front of a declaration is laid out in paragraphs: no empty lines at its ends
and never two in a row. A line that stands alone between empty lines and looks like a title becomes
a heading, and pairs of quotation marks become typographic ones. -/

namespace RegisterMap.Generated

/-- Keeps one of several empty lines in a row. -/
def joinBlankLines : List String → List String
  | [] => []
  | "" :: "" :: rest => joinBlankLines ("" :: rest)
  | line :: rest => line :: joinBlankLines rest

/-- Lines without empty ones at the ends and without two empty ones in a row. -/
def paragraphs (lines : List String) : List String :=
  let lines := joinBlankLines (lines.dropWhile String.isEmpty)
  (lines.reverse.dropWhile String.isEmpty).reverse

/-- Whether every apostrophe of a text starts a possessive. -/
def apostrophesPossessive : List Char → Bool
  | [] => true
  | c :: cs =>
    (c.toNat != 39 || cs == ['s'] || cs.take 2 == ['s', ' ']) && apostrophesPossessive cs

/-- Whether every point of a text has something other than a blank after it. -/
def pointsInside : List Char → Bool
  | [] => true
  | c :: cs => (c != '.' || !(cs.isEmpty || cs.head? == some ' ')) && pointsInside cs

/-- The marks that no title has. -/
def untitledMarks : List Char :=
  ";:!?+*/=[]\x7b\x7d_^°&§~%#@<\">\\".toList

/-- Whether a line looks like a title: it starts with an upper-case letter, ends with a letter or
    digit and has little punctuation. -/
def isTitle (line : String) : Bool :=
  match line.toList with
  | [] => false
  | c :: cs =>
    let last := (c :: cs).getLast (List.cons_ne_nil c cs)
    Text.isUpperCase c && (Text.isLetter last || Text.isDecimalDigit last)
      && !(c :: cs).any (untitledMarks.contains ·)
      && apostrophesPossessive (c :: cs) && pointsInside (c :: cs)

/-- Marks titles as headings: lines alone between empty lines that more text follows. -/
def markHeadings : List String → List String
  | "" :: line :: "" :: next :: rest =>
    if isTitle line then "" :: ("# " ++ line) :: markHeadings ("" :: next :: rest)
    else "" :: line :: markHeadings ("" :: next :: rest)
  | line :: rest => line :: markHeadings rest
  | [] => []

/-- The typographic quotation mark for a pair of backquotes or apostrophes. -/
def quotePair? (a b : Char) : Option Char :=
  if a.toNat = 96 ∧ b.toNat = 96 then some (Char.ofNat 0x201C)
  else if a.toNat = 39 ∧ b.toNat = 39 then some (Char.ofNat 0x201D)
  else none

/-- Replaces pairs of backquotes and apostrophes by typographic quotation marks; three backquotes
    in a row stay. -/
def pairQuotes : List Char → List Char
  | a :: b :: c :: rest =>
    if a.toNat = 96 ∧ b.toNat = 96 ∧ c.toNat = 96 then
      a :: b :: c :: pairQuotes rest
    else
      match quotePair? a b with
      | some mark => mark :: pairQuotes (c :: rest)
      | none => a :: pairQuotes (b :: c :: rest)
  | [a, b] =>
    match quotePair? a b with
    | some mark => [mark]
    | none => [a, b]
  | cs => cs

/-- The lines of the documentation of a declaration, in their final layout. -/
def documentation (doc : List String) : List String :=
  (markHeadings (paragraphs doc)).map fun line => String.ofList (pairQuotes line.toList)

end RegisterMap.Generated
