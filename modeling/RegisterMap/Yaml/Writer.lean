import RegisterMap.Yaml.Datum

/-! # Writing texts in YAML

A text is written plain if it can be read back from that. If it would be read as something else it
is put in double quotes; if it cannot stand plain because of its form, in single quotes; and what
single quotes cannot hold goes into double quotes with escapes. A text of several lines is written
as a literal block. Lines are folded at spaces once they are longer than 80 columns. -/

namespace RegisterMap.Yaml

/-- Whether a character can be shown as it is. -/
def isShown (c : Char) : Bool :=
  let n := c.toNat
  n == 10 || (0x20 ≤ n && n ≤ 0x7E)
    || (0xA0 ≤ n && n < 0x10000 && n != 0xFEFF && n != 0xFFFE && n != 0xFFFF)

/-- Whether some character of one kind is followed by one of another kind. -/
def someFollowedBy (p q : Char → Bool) (cs : List Char) : Bool :=
  (cs.zip cs.tail).any fun (a, b) => p a && q b

/-- Whether the text contains something that has a meaning in a block: an indicator at the start, a
    colon at the end of a word, a number sign at the start of one. -/
def hasIndicator (cs : List Char) : Bool :=
  let ends (rest : List Char) : Bool := rest.isEmpty || rest.head?.any isBlank
  let atStart := match cs with
    | '-' :: '-' :: '-' :: _ => true
    | '.' :: '.' :: '.' :: _ => true
    | c :: rest =>
      "#,[]\x7b\x7d&*!|>\"%@".toList.contains c || c == apostrophe || c.toNat == 0x60
        || ((c == '?' || c == ':' || c == '-') && ends rest)
    | [] => false
  atStart || someFollowedBy (· == ':') isBlank cs || cs.getLast? == some ':'
    || someFollowedBy (fun c => isBlank c || isBreak c) (· == '#') cs

/-- Whether a text looks like a number in base 60. -/
def isSexagesimal (text : List Char) : Bool :=
  match Numeral.withoutSign text with
  | c :: cs =>
    let groups (parts : List (List Char)) : Bool := parts.all fun p => match p with
      | [d] => d.isDigit
      | [d, e] => '0' ≤ d && d ≤ '5' && e.isDigit
      | _ => false
    let rest := cs.dropWhile fun d => d.isDigit || d == '_'
    let tail := rest.dropWhile (· != '.')
    let parts := (String.ofList (rest.takeWhile (· != '.'))).splitOn ":" |>.map String.toList
    c.isDigit && rest.head? == some ':' && groups parts.tail
      && tail.tail.all fun d => d.isDigit || d == '_'
  | [] => false

/-- How a text is written. -/
inductive Style where
  | plain | single | double | literal
  deriving DecidableEq, Repr

/-- The style of a text that is not empty. -/
def styleOf (text : String) : Style :=
  let cs := text.toList
  let space (c : Char) : Bool := c == ' '
  let special := cs.any fun c => !isShown c
  let spaceBreak := someFollowedBy space isBreak cs
  let breakSpace := someFollowedBy isBreak space cs
  let outer (p : Char → Bool) : Bool := cs.head?.any p || cs.getLast?.any p
  if cs.contains '\n' then
    if special || spaceBreak || cs.getLast?.any space then .double else .literal
  else if (classify true text).1 ≠ .text || isSexagesimal cs then .double
  else if special || spaceBreak || breakSpace then .double
  else if cs.any isBreak || outer space || hasIndicator cs then .single
  else .plain

/-- A line is not folded before it is longer than this. -/
def lineWidth : Nat := 80

/-- A new line at the indentation of a text. -/
def foldedLine : List Char := ['\n', ' ', ' ']

/-- Writes a plain or single-quoted text from a column on. `spaces` tells whether a space stands
    just before, and `start` whether a line break does. -/
def writeFolded (single : Bool) : (column : Nat) → (spaces start first : Bool) → List Char → List Char
  | _, _, _, _, [] => []
  | column, spaces, start, first, c :: cs =>
    if c = ' ' then
      let inside := !single || (!first && !cs.isEmpty)
      if !spaces && lineWidth < column && inside && cs.head? != some ' ' then
        foldedLine ++ writeFolded single 2 true start false cs
      else
        ' ' :: writeFolded single (column + 1) true start false cs
    else if isBreak c then
      c :: writeFolded single 0 spaces true false cs
    else
      let margin := if start then [' ', ' '] else []
      let shown := if single && c == apostrophe then [c, c] else [c]
      margin ++ shown ++ writeFolded single (column + margin.length + shown.length) false false false cs

/-- A character in double quotes that is not shown as it is. -/
def escape (c : Char) : List Char :=
  let named : Option Char := match c.toNat with
    | 0 => some '0'
    | 7 => some 'a'
    | 8 => some 'b'
    | 9 => some 't'
    | 10 => some 'n'
    | 11 => some 'v'
    | 12 => some 'f'
    | 13 => some 'r'
    | 27 => some 'e'
    | 34 => some '"'
    | 92 => some '\\'
    | 0x85 => some 'N'
    | 0x2028 => some 'L'
    | 0x2029 => some 'P'
    | _ => none
  let code (letter : Char) (width : Nat) : List Char :=
    letter :: Numeral.zeroPadded width (Numeral.chars 16 c.toNat)
  '\\' :: match named with
    | some letter => [letter]
    | none =>
      if c.toNat ≤ 0xFF then code 'x' 2
      else if c.toNat ≤ 0xFFFF then code 'u' 4
      else code 'U' 8

/-- Writes a double-quoted text from a column on. -/
def writeDouble : (column : Nat) → (spaces first : Bool) → List Char → List Char
  | _, _, _, [] => []
  | column, spaces, first, c :: cs =>
    if !isShown c || isBreak c || c == '"' || c == '\\' then
      let shown := escape c
      shown ++ writeDouble (column + shown.length) false false cs
    else if c = ' ' then
      if !spaces && lineWidth < column && !first && !cs.isEmpty then
        let guard := if cs.head? = some ' ' then ['\\'] else []
        foldedLine ++ guard ++ writeDouble (2 + guard.length) true false cs
      else
        ' ' :: writeDouble (column + 1) true false cs
    else
      c :: writeDouble (column + 1) false false cs

/-- Writes the lines of a literal block; `start` tells whether a line begins. -/
def writeLiteral : (start : Bool) → List Char → List Char
  | _, [] => []
  | start, c :: cs =>
    if isBreak c then c :: writeLiteral true cs
    else (if start then [' ', ' ', c] else [c]) ++ writeLiteral false cs

/-- The marks of a literal block: its indentation, if its first line does not show it, and what
    happens to the line breaks at its end. -/
def literalMarks (cs : List Char) : List Char :=
  let indent := if cs.head?.any fun c => c == ' ' || isBreak c then ['2'] else []
  let chomping := match cs.reverse with
    | c :: rest =>
      if !isBreak c then ['-']
      else
        match rest with
        | [] => ['+']
        | d :: _ => if isBreak d then ['+'] else []
    | [] => ['-']
  indent ++ chomping

/-- A line or several that give a text a name. -/
def writeEntry (name text : String) : String :=
  let cs := text.toList
  let column := name.length + 2
  let body := match styleOf text with
    | .plain => writeFolded false column false false true cs
    | .single => apostrophe :: writeFolded true (column + 1) false false true cs ++ [apostrophe]
    | .double => '"' :: writeDouble (column + 1) false true cs ++ ['"']
    | .literal => '|' :: literalMarks cs ++ '\n' :: writeLiteral true cs
  let ending := if body.getLast? = some '\n' then [] else ['\n']
  String.ofList (name.toList ++ [':', ' '] ++ body ++ ending)

/-- A mapping of names to texts. Empty texts are left out. -/
def writeMapping (entries : List (String × String)) : String :=
  let written := entries.filter fun e => e.2 ≠ ""
  if written.isEmpty then "\x7b\x7d\n"
  else String.join (written.map fun e => writeEntry e.1 e.2)

end RegisterMap.Yaml
