/-! # Reading a YAML text

A cursor is a place in a text. Lines and columns matter in YAML, because indentation carries the
structure: a line break counts as one character whichever way it is written, and is read as a line
feed unless it is one of the two separators that mean a break of their own. -/

namespace RegisterMap.Yaml

/-- Whether a character ends a line. -/
def isBreak (c : Char) : Bool :=
  c == '\n' || c == '\r' || c.toNat == 0x85 || c.toNat == 0x2028 || c.toNat == 0x2029

/-- Whether a character is a space or a tab. -/
def isBlank (c : Char) : Bool :=
  c == ' ' || c == '\t'

/-- Whether a character may appear in a YAML text at all. -/
def isAllowed (c : Char) : Bool :=
  let n := c.toNat
  n == 9 || n == 10 || n == 13 || (0x20 ≤ n && n ≤ 0x7E) || n == 0x85
    || (0xA0 ≤ n && n ≤ 0xFFFD) || 0x10000 ≤ n

/-- Whether a name such as that of an anchor may contain a character. -/
def isWordChar (c : Char) : Bool :=
  c.isAlphanum || c == '_' || c == '-'

/-- Whether nothing more of a word comes: a blank, a line break or the end. -/
def wordEnds : List Char → Bool
  | [] => true
  | c :: _ => isBlank c || isBreak c

/-- A place in a text. -/
structure Cursor where
  rest : List Char
  index : Nat := 0
  line : Nat := 0
  column : Nat := 0
  deriving Repr

namespace Cursor

/-- The place some characters further on the same line. -/
def advance (c : Cursor) (count : Nat) : Cursor :=
  { c with rest := c.rest.drop count, index := c.index + count, column := c.column + count }

/-- The place after a line break of so many characters. -/
def nextLine (c : Cursor) (count : Nat) : Cursor :=
  ⟨c.rest.drop count, c.index + count, c.line + 1, 0⟩

/-- Reads a line break if there is one, and what it stands for. -/
def lineBreak (c : Cursor) : List Char × Cursor :=
  match c.rest with
  | '\r' :: '\n' :: _ => (['\n'], c.nextLine 2)
  | x :: _ =>
    if !isBreak x then ([], c)
    else if x.toNat = 0x2028 ∨ x.toNat = 0x2029 then ([x], c.nextLine 1)
    else (['\n'], c.nextLine 1)
  | [] => ([], c)

/-- Reads characters as long as they are of some kind, which no line break is. -/
def span (c : Cursor) (p : Char → Bool) : List Char × Cursor :=
  let taken := c.rest.takeWhile p
  (taken, c.advance taken.length)

/-- Passes over characters of some kind. -/
def skip (c : Cursor) (p : Char → Bool) : Cursor :=
  (c.span p).2

/-- Whether the next character is of some kind. -/
def sees (c : Cursor) (p : Char → Bool) : Bool :=
  match c.rest with
  | [] => false
  | x :: _ => p x

/-- Whether a line begins here with three times a character and nothing more of a word. -/
def seesMark (c : Cursor) (mark : Char) : Bool :=
  c.column == 0 &&
    match c.rest with
    | a :: b :: d :: rest => a == mark && b == mark && d == mark && wordEnds rest
    | _ => false

/-- Whether a document begins or ends here. -/
def seesDocument (c : Cursor) : Bool :=
  c.seesMark '-' || c.seesMark '.'

/-- Passes over the rest of a line, which may hold a comment; nothing else may stand there. -/
def restOfLine? (c : Cursor) : Option Cursor :=
  let c := c.skip isBlank
  let c := if c.sees (· == '#') then c.skip (!isBreak ·) else c
  if c.rest.isEmpty || c.sees isBreak then some c.lineBreak.2 else none

end Cursor

/-! ## Gaps inside of scalars -/

/-- The blanks and line breaks between two words of a scalar. -/
structure Gap where
  /-- The blanks before the first line break. -/
  blanks : List Char := []
  /-- The first line break. -/
  first : List Char := []
  /-- The line breaks after it. -/
  more : List Char := []
  broken : Bool := false
  deriving Repr

/-- What a gap stands for: a single line break is folded to a space, and of several the first is
    dropped. -/
def Gap.text (g : Gap) : List Char :=
  if !g.broken then g.blanks
  else if g.first = ['\n'] then
    if g.more.isEmpty then [' '] else g.more
  else g.first ++ g.more

/-- Reads the rest of a gap. After a line break a tab may not stand left of the column `indent`. -/
def Gap.read? (indent : Int) : (fuel : Nat) → Cursor → Gap → Option (Gap × Cursor)
  | 0, _, _ => none
  | fuel + 1, c, g =>
    match c.rest with
    | [] => some (g, c)
    | x :: _ =>
      if isBlank x then
        if g.broken then
          if x = '\t' ∧ (c.column : Int) < indent then none
          else Gap.read? indent fuel (c.advance 1) g
        else
          Gap.read? indent fuel (c.advance 1) { g with blanks := g.blanks ++ [x] }
      else if isBreak x then
        let (br, c) := c.lineBreak
        if g.broken then Gap.read? indent fuel c { g with more := g.more ++ br }
        else Gap.read? indent fuel c { g with blanks := [], first := br, broken := true }
      else
        some (g, c)

/-! ## Scalars -/

/-- The apostrophe, which opens and closes a single-quoted scalar. -/
def apostrophe : Char := Char.ofNat 39

/-- The character that a letter after a backslash stands for. -/
def escaped? (c : Char) : Option Char :=
  let code : Option Nat := match c with
    | '0' => some 0
    | 'a' => some 7
    | 'b' => some 8
    | 't' => some 9
    | '\t' => some 9
    | 'n' => some 10
    | 'v' => some 11
    | 'f' => some 12
    | 'r' => some 13
    | 'e' => some 27
    | ' ' => some 32
    | '"' => some 34
    | '\\' => some 92
    | 'N' => some 0x85
    | '_' => some 0xA0
    | 'L' => some 0x2028
    | 'P' => some 0x2029
    | _ => if c = apostrophe then some 39 else none
  code.map Char.ofNat

/-- The number of hexadecimal digits after a letter that introduces them. -/
def codeWidth? : Char → Option Nat
  | 'x' => some 2
  | 'u' => some 4
  | 'U' => some 8
  | _ => none

/-- The value of a hexadecimal digit. -/
def hexDigit? (c : Char) : Option Nat :=
  if '0' ≤ c ∧ c ≤ '9' then some (c.toNat - 48)
  else if 'a' ≤ c ∧ c ≤ 'f' then some (c.toNat - 87)
  else if 'A' ≤ c ∧ c ≤ 'F' then some (c.toNat - 55)
  else none

/-- The character with a code of so many hexadecimal digits at the start of a text. -/
def codeChar? (width : Nat) (cs : List Char) : Option Char :=
  let digits := (cs.take width).filterMap hexDigit?
  let code := digits.foldl (fun n d => n * 16 + d) 0
  if digits.length = width ∧ (code < 0xD800 ∨ (0xDFFF < code ∧ code ≤ 0x10FFFF)) then
    some (Char.ofNat code)
  else
    none

/-- Reads a quoted scalar up to its closing quote; `acc` holds its text so far, the last character
    first. -/
def quoted? (single : Bool) : (fuel : Nat) → Cursor → (acc : List Char) → Option (List Char × Cursor)
  | 0, _, _ => none
  | fuel + 1, c, acc =>
    let afterGap (r : Option (Gap × Cursor)) : Option (List Char × Cursor) :=
      match r with
      | none => none
      | some (gap, c) =>
        if c.seesDocument then none else quoted? single fuel c (gap.text.reverse ++ acc)
    match c.rest with
    | [] => none
    | x :: r =>
      if isBlank x || isBreak x then
        afterGap (Gap.read? 0 (r.length + 2) c {})
      else if single then
        if x = apostrophe then
          if r.head? = some apostrophe then quoted? single fuel (c.advance 2) (apostrophe :: acc)
          else some (acc.reverse, c.advance 1)
        else
          quoted? single fuel (c.advance 1) (x :: acc)
      else if x = '"' then
        some (acc.reverse, c.advance 1)
      else if x = '\\' then
        match r with
        | [] => none
        | e :: digits =>
          if isBreak e then
            afterGap (Gap.read? 0 (r.length + 2) (c.advance 1).lineBreak.2 { broken := true })
          else
            match escaped? e, codeWidth? e with
            | some y, _ => quoted? single fuel (c.advance 2) (y :: acc)
            | none, some width =>
              match codeChar? width digits with
              | some y => quoted? single fuel (c.advance (2 + width)) (y :: acc)
              | none => none
            | none, none => none
      else
        quoted? single fuel (c.advance 1) (x :: acc)

/-- Whether a plain scalar ends before a character: at a colon after which no word goes on, and
    inside of brackets also at the characters that have a meaning there. -/
def plainEnds (flow : Bool) (x : Char) (rest : List Char) : Bool :=
  (x == ':' && wordEnds rest)
    || (flow && (x == ',' || x == '?' || x == '[' || x == ']' || x == '\x7b' || x == '\x7d'))

/-- The next word of a plain scalar. -/
def plainWord (flow : Bool) : List Char → List Char
  | [] => []
  | x :: rest =>
    if isBlank x || isBreak x || plainEnds flow x rest then [] else x :: plainWord flow rest

/-- Reads a plain scalar, word by word. Its lines have to be indented to the column `indent`, unless
    it stands inside of brackets. The result tells whether line breaks follow the scalar. -/
def plain? (flow : Bool) (indent : Int) :
    (fuel : Nat) → Cursor → (acc : List Char) → Gap → Option (List Char × Bool × Cursor)
  | 0, _, _, _ => none
  | fuel + 1, c, acc, gap =>
    if c.seesDocument || c.sees (· == '#') then
      some (acc.reverse, gap.broken, c)
    else
      let word := plainWord flow c.rest
      let acc := if word.isEmpty then acc else word.reverse ++ gap.text.reverse ++ acc
      let gap := if word.isEmpty then gap else {}
      let c := c.advance word.length
      if c.sees fun x => isBlank x || isBreak x then
        match Gap.read? indent (c.rest.length + 1) c gap with
        | none => none
        | some (gap, c) =>
          if !flow && (c.column : Int) < indent then some (acc.reverse, gap.broken, c)
          else plain? flow indent fuel c acc gap
      else
        some (acc.reverse, gap.broken, c)

/-! ## Block scalars -/

/-- Reads empty lines and the indentation of the line after them. If the column `indent` of a block
    is not known yet, it is zero, and is then found from the lines read here; `deepest` is the
    greatest column seen, and `parent` the column of the surrounding block. -/
def blockBreaks? (parent : Int) :
    (fuel : Nat) → Cursor → (indent deepest : Nat) → (breaks : List Char) →
      Option (Nat × List Char × Cursor)
  | 0, _, _, _, _ => none
  | fuel + 1, c, indent, deepest, breaks =>
    let spaces := (c.rest.takeWhile (· == ' ')).length
    let c := c.advance (if indent = 0 then spaces else min spaces (indent - c.column))
    let deepest := max deepest c.column
    if (indent = 0 ∨ c.column < indent) ∧ c.sees (· == '\t') then none
    else if c.sees isBreak then
      let (br, c) := c.lineBreak
      blockBreaks? parent fuel c indent deepest (breaks ++ br)
    else
      some (if indent = 0 then max (max deepest (parent + 1).toNat) 1 else indent, breaks, c)

/-- How the line breaks at the end of a block scalar are kept. -/
inductive Chomping where
  | strip | clip | keep
  deriving DecidableEq, Repr

/-- Reads the lines of a block scalar. `first` is the break after the last line, `more` are those
    after it, and `blankBefore` tells whether the last line began with a blank. -/
def blockLines? (literal : Bool) (chomping : Chomping) (parent : Int) (indent : Nat) :
    (fuel : Nat) → Cursor → (acc first more : List Char) → (blankBefore : Bool) →
      Option (List Char × Cursor)
  | 0, _, _, _, _, _ => none
  | fuel + 1, c, acc, first, more, blankBefore =>
    if c.column = indent ∧ !c.rest.isEmpty then
      let blank := c.sees isBlank
      let joined :=
        if !literal && !blankBefore && !blank && first == ['\n'] then
          if more.isEmpty then [' '] else []
        else first
      let (line, c) := c.span (!isBreak ·)
      let (first, c) := c.lineBreak
      match blockBreaks? parent (c.rest.length + 1) c indent 0 [] with
      | none => none
      | some (_, breaks, c) =>
        let acc := line.reverse ++ more.reverse ++ joined.reverse ++ acc
        blockLines? literal chomping parent indent fuel c acc first breaks blank
    else
      let tail := match chomping with
        | .strip => []
        | .clip => first
        | .keep => first ++ more
      some (acc.reverse ++ tail, c)

/-- Reads the marks after the sign of a block scalar: how its end is chomped, and how far it is
    indented, in either order. -/
def blockMarks? (cs : List Char) : Option (Chomping × Nat × Nat) :=
  let chomp (c : Char) : Option Chomping :=
    if c = '+' then some .keep else if c = '-' then some .strip else none
  let digit (c : Char) : Option Nat :=
    if '0' ≤ c ∧ c ≤ '9' then some (c.toNat - 48) else none
  match cs with
  | [] => some (.clip, 0, 0)
  | a :: rest =>
    match chomp a, digit a with
    | some ch, _ =>
      match rest.head?.bind digit with
      | some d => if d = 0 then none else some (ch, d, 2)
      | none => some (ch, 0, 1)
    | none, some d =>
      if d = 0 then none
      else
        match rest.head?.bind chomp with
        | some ch => some (ch, d, 2)
        | none => some (.clip, d, 1)
    | none, none => some (.clip, 0, 0)

/-- Reads a block scalar after its sign, inside of a block at the column `parent`. -/
def block? (literal : Bool) (parent : Int) (c : Cursor) : Option (List Char × Cursor) := do
  let (chomping, increment, used) ← blockMarks? c.rest
  let c ← (c.advance used).restOfLine?
  let indent := if increment = 0 then 0 else (max parent 0).toNat + increment
  let (indent, breaks, c) ← blockBreaks? parent (c.rest.length + 1) c indent 0 []
  blockLines? literal chomping parent indent (c.rest.length + 2) c [] [] breaks false

end RegisterMap.Yaml
