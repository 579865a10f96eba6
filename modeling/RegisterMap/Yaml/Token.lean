import RegisterMap.Yaml.Cursor

/-! # Tokens of a YAML text

The scanner turns indentation into tokens of its own: `blockMapping` and `blockSequence` where a
deeper block begins, and `blockEnd` where it ends. A key in front of a colon is recognized only when
the colon is found, so that every place where a key may begin is remembered (`PendingKey`), and the
`key` token is put there afterwards. Such a key may not span lines. -/

namespace RegisterMap.Yaml

/-- A piece of a YAML text. -/
inductive Token where
  | streamEnd
  /-- The version of YAML that a document asks for. -/
  | version (major minor : Nat)
  /-- A shorthand for the first part of tags. -/
  | shorthand (handle expansion : String)
  | documentStart
  | documentEnd
  | blockSequence
  | blockMapping
  | blockEnd
  | flowSequence
  | flowSequenceEnd
  | flowMapping
  | flowMappingEnd
  | entry
  | comma
  | key
  | value
  | reference (anchor : String)
  | anchor (name : String)
  | tag (handle suffix : String)
  | scalar (text : String) (plain : Bool)
  /-- The text cannot be read any further. -/
  | fault
  deriving DecidableEq, Repr

/-- A place where a key may have begun. -/
structure PendingKey where
  /-- Nothing but a key can stand there. -/
  required : Bool
  /-- The number of tokens before it. -/
  position : Nat
  index : Nat
  line : Nat
  column : Nat
  deriving Repr

/-- Whether a key that began earlier can no longer end at the cursor. -/
def PendingKey.isStale (k : PendingKey) (c : Cursor) : Bool :=
  k.line < c.line || k.index + 1024 < c.index

/-- The state of the scanner. -/
structure Scanner where
  cursor : Cursor
  /-- The number of open brackets. -/
  flow : Nat := 0
  /-- The column of the current block, and those of the blocks around it. -/
  indent : Int := -1
  indents : List Int := []
  /-- Whether a key may begin here. -/
  keyAllowed : Bool := true
  /-- The pending key of the current bracket, and those of the brackets around it. -/
  keys : List (Option PendingKey) := [none]
  tokens : Array Token := #[]

namespace Scanner

/-- Adds a token. -/
def emit (s : Scanner) (t : Token) : Scanner :=
  { s with tokens := s.tokens.push t }

/-- Adds a token that takes so many characters. -/
def take (s : Scanner) (count : Nat) (t : Token) : Scanner :=
  { s with cursor := s.cursor.advance count, tokens := s.tokens.push t }

/-- Whether the scanner is inside of brackets. -/
def inFlow (s : Scanner) : Bool :=
  0 < s.flow

/-- The number of blocks that end before a column, and the columns that remain. -/
def closing (column : Int) : (indent : Int) → (indents : List Int) → Nat × Int × List Int
  | indent, [] => (0, indent, [])
  | indent, outer :: rest =>
    if column < indent then
      let (count, indent, indents) := closing column outer rest
      (count + 1, indent, indents)
    else
      (0, indent, outer :: rest)

/-- Ends the blocks that lie deeper than a column. -/
def unroll (s : Scanner) (column : Int) : Scanner :=
  if s.inFlow then s
  else
    let (count, indent, indents) := closing column s.indent s.indents
    { s with indent, indents, tokens := s.tokens ++ (Array.replicate count Token.blockEnd) }

/-- Begins a block at a column if it lies deeper than the current one. -/
def roll (s : Scanner) (column position : Nat) (t : Token) : Scanner :=
  if s.inFlow || (column : Int) ≤ s.indent then s
  else
    { s with
      indent := column
      indents := s.indent :: s.indents
      tokens := s.tokens.insertIdxIfInBounds position t }

/-- Gives up the pending key, unless it is required. -/
def dropKey? (s : Scanner) : Option Scanner :=
  match s.keys with
  | some k :: rest => if k.required then none else some { s with keys := none :: rest }
  | _ => some s

/-- Remembers that a key may begin here. -/
def saveKey? (s : Scanner) : Option Scanner :=
  if s.keyAllowed then do
    let s ← s.dropKey?
    let c := s.cursor
    let k : PendingKey :=
      ⟨!s.inFlow && s.indent == c.column, s.tokens.size, c.index, c.line, c.column⟩
    return { s with keys := some k :: s.keys.tail }
  else
    some s

/-- Passes over blanks, comments and line breaks. Tabs do not count as blanks where a key may
    begin. -/
def skipBlanks (flow : Bool) : (fuel : Nat) → Cursor → (keyAllowed : Bool) → Cursor × Bool
  | 0, c, keyAllowed => (c, keyAllowed)
  | fuel + 1, c, keyAllowed =>
    let c := if c.column == 0 && c.sees (·.toNat == 0xFEFF) then c.advance 1 else c
    let c := c.skip fun x => x == ' ' || ((flow || !keyAllowed) && x == '\t')
    let c := if c.sees (· == '#') then c.skip (!isBreak ·) else c
    if c.sees isBreak then skipBlanks flow fuel c.lineBreak.2 (keyAllowed || !flow)
    else (c, keyAllowed)

/-! ## The kinds of tokens -/

/-- An opening bracket. -/
def openFlow? (s : Scanner) (t : Token) : Option Scanner := do
  let s ← s.saveKey?
  return { (s.take 1 t) with flow := s.flow + 1, keys := none :: s.keys, keyAllowed := true }

/-- A closing bracket. -/
def closeFlow? (s : Scanner) (t : Token) : Option Scanner := do
  let s ← s.dropKey?
  let keys := if s.inFlow then s.keys.tail else s.keys
  return { (s.take 1 t) with flow := s.flow - 1, keys, keyAllowed := false }

/-- A comma between brackets. -/
def comma? (s : Scanner) : Option Scanner := do
  let s ← s.dropKey?
  return { (s.take 1 .comma) with keyAllowed := true }

/-- A dash in front of an entry, or a question mark in front of a key. -/
def lead? (s : Scanner) (block t : Token) : Option Scanner := do
  if !s.inFlow && !s.keyAllowed then none
  else
    let s ← (s.roll s.cursor.column s.tokens.size block).dropKey?
    return { (s.take 1 t) with keyAllowed := t = .entry || !s.inFlow }

/-- A colon after a key. -/
def value? (s : Scanner) : Option Scanner :=
  match s.keys with
  | some k :: rest =>
    if k.isStale s.cursor then
      if k.required then none else later { s with keys := none :: rest }
    else
      let s := { s with tokens := s.tokens.insertIdxIfInBounds k.position .key, keys := none :: rest }
      let s := s.roll k.column k.position .blockMapping
      some { (s.take 1 .value) with keyAllowed := false }
  | _ => later s
where
  /-- A colon without a key on the same line. -/
  later (s : Scanner) : Option Scanner :=
    if !s.inFlow && !s.keyAllowed then none
    else
      let s := s.roll s.cursor.column s.tokens.size .blockMapping
      some { (s.take 1 .value) with keyAllowed := !s.inFlow }

/-- The name of an anchor, after its sign. -/
def anchor? (s : Scanner) (make : String → Token) : Option Scanner := do
  let s ← s.saveKey?
  let (name, c) := (s.cursor.advance 1).span isWordChar
  let ends := wordEnds c.rest
    || c.sees fun x => "?:,]\x7d%@".toList.contains x || x.toNat == 0x60
  if name.isEmpty || !ends then none
  else some { s with
    cursor := c, keyAllowed := false, tokens := s.tokens.push (make (String.ofList name)) }

/-- Whether the name of a tag may contain a character. -/
def isTagChar (c : Char) : Bool :=
  isWordChar c || c == apostrophe || ";/?:@&=+$,.!~*()[]".toList.contains c

/-- Reads the name of a tag; a percent sign introduces the code of a character. -/
def tagName? : (fuel : Nat) → Cursor → (acc : List Char) → Option (List Char × Cursor)
  | 0, _, _ => none
  | fuel + 1, c, acc =>
    match c.rest with
    | '%' :: digits =>
      match codeChar? 2 digits with
      | some x => if x.toNat < 0x80 then tagName? fuel (c.advance 3) (x :: acc) else none
      | none => none
    | x :: _ => if isTagChar x then tagName? fuel (c.advance 1) (x :: acc) else some (acc.reverse, c)
    | [] => some (acc.reverse, c)

/-- Reads the handle of a tag: an exclamation mark, or a word between two of them. -/
def handle (c : Cursor) : List Char × Cursor :=
  let (name, after) := (c.advance 1).span isWordChar
  if after.sees (· == '!') then ('!' :: name ++ ['!'], after.advance 1) else ('!' :: name, after)

def tag? (s : Scanner) : Option Scanner := do
  let s ← s.saveKey?
  let fuel := s.cursor.rest.length + 1
  let (handle, suffix, c) ←
    if (s.cursor.advance 1).sees (· == '<') then
      match tagName? fuel (s.cursor.advance 2) [] with
      | some (name, c) =>
        if name.isEmpty || !c.sees (· == '>') then none else some ([], name, c.advance 1)
      | none => none
    else
      let (head, c) := handle s.cursor
      if 1 < head.length ∧ head.getLast? = some '!' then
        match tagName? fuel c [] with
        | some (name, c) => if name.isEmpty then none else some (head, name, c)
        | none => none
      else
        match tagName? fuel c head.tail.reverse with
        | some (name, c) => if name.isEmpty then some ([], ['!'], c) else some (['!'], name, c)
        | none => none
  if !wordEnds c.rest then none
  else some { s with
    cursor := c, keyAllowed := false,
    tokens := s.tokens.push (.tag (String.ofList handle) (String.ofList suffix)) }

/-- A block scalar, after its sign. -/
def blockScalar? (s : Scanner) (literal : Bool) : Option Scanner := do
  let s ← s.dropKey?
  let (text, c) ← block? literal s.indent (s.cursor.advance 1)
  return { s with
    cursor := c, keyAllowed := true, tokens := s.tokens.push (.scalar (String.ofList text) false) }

def quotedScalar? (s : Scanner) (single : Bool) : Option Scanner := do
  let s ← s.saveKey?
  let (text, c) ← quoted? single (s.cursor.rest.length + 1) (s.cursor.advance 1) []
  return { s with
    cursor := c, keyAllowed := false, tokens := s.tokens.push (.scalar (String.ofList text) false) }

def plainScalar? (s : Scanner) : Option Scanner := do
  let s ← s.saveKey?
  let (text, broken, c) ← plain? s.inFlow (s.indent + 1) (s.cursor.rest.length + 1) s.cursor [] {}
  return { s with
    cursor := c, keyAllowed := broken, tokens := s.tokens.push (.scalar (String.ofList text) true) }

def number? (c : Cursor) : Option (Nat × Cursor) :=
  let (digits, after) := c.span Char.isDigit
  if digits.isEmpty || 9 < digits.length then none
  else some (digits.foldl (fun n d => n * 10 + (d.toNat - 48)) 0, after)

/-- A directive in front of a document: the version of YAML, or a shorthand for tags. -/
def directive? (s : Scanner) : Option Scanner := do
  let s ← (s.unroll (-1)).dropKey?
  let (name, c) := (s.cursor.advance 1).span isWordChar
  if !wordEnds c.rest then none
  else
    let (t, c) ←
      if name = "YAML".toList then
        match number? (c.skip isBlank) with
        | some (major, c) =>
          if c.sees (· == '.') then
            (number? (c.advance 1)).map fun (minor, c) => (Token.version major minor, c)
          else none
        | none => none
      else if name = "TAG".toList then
        let c := c.skip isBlank
        if !c.sees (· == '!') then none
        else
          let (head, c) := handle c
          if (head ≠ ['!'] ∧ head.getLast? ≠ some '!') ∨ !c.sees isBlank then none
          else
            match tagName? (c.rest.length + 1) (c.skip isBlank) [] with
            | some (expansion, c) =>
              if expansion.isEmpty || !wordEnds c.rest then none
              else some (.shorthand (String.ofList head) (String.ofList expansion), c)
            | none => none
      else none
    let c ← c.restOfLine?
    return { s with cursor := c, keyAllowed := false, tokens := s.tokens.push t }

/-- The mark that begins or ends a document. -/
def documentMark? (s : Scanner) (t : Token) : Option Scanner := do
  let s ← (s.unroll (-1)).dropKey?
  return { (s.take 3 t) with keyAllowed := false }

/-- The end of the text. -/
def streamEnd? (s : Scanner) : Option Scanner := do
  let s ← (s.unroll (-1)).dropKey?
  return s.emit .streamEnd

/-- Whether a plain scalar may begin here. -/
def plainBegins (flow : Bool) (x : Char) (rest : List Char) : Bool :=
  let indicator := "-?:,[]\x7b\x7d#&*!|>\"%@".toList.contains x
    || x == apostrophe || x.toNat == 0x60 || isBlank x || isBreak x
  !indicator || (x == '-' && !(rest.head?.any isBlank))
    || (!flow && (x == '?' || x == ':') && !wordEnds rest)

/-- Adds the next token. -/
def next? (s : Scanner) : Option Scanner :=
  let (c, keyAllowed) := skipBlanks s.inFlow (s.cursor.rest.length + 1) s.cursor s.keyAllowed
  let s := { s with cursor := c, keyAllowed }.unroll c.column
  match c.rest with
  | [] => s.streamEnd?
  | x :: rest =>
    if c.column = 0 ∧ x = '%' then s.directive?
    else if c.seesMark '-' then s.documentMark? .documentStart
    else if c.seesMark '.' then s.documentMark? .documentEnd
    else if x = '[' then s.openFlow? .flowSequence
    else if x = '\x7b' then s.openFlow? .flowMapping
    else if x = ']' then s.closeFlow? .flowSequenceEnd
    else if x = '\x7d' then s.closeFlow? .flowMappingEnd
    else if x = ',' then s.comma?
    else if x = '-' ∧ wordEnds rest then s.lead? .blockSequence .entry
    else if x = '?' ∧ (s.inFlow ∨ wordEnds rest) then s.lead? .blockMapping .key
    else if x = ':' ∧ (s.inFlow ∨ wordEnds rest) then s.value?
    else if x = '*' then s.anchor? .reference
    else if x = '&' then s.anchor? .anchor
    else if x = '!' then s.tag?
    else if x = '|' ∧ !s.inFlow then s.blockScalar? true
    else if x = '>' ∧ !s.inFlow then s.blockScalar? false
    else if x = apostrophe then s.quotedScalar? true
    else if x = '"' then s.quotedScalar? false
    else if plainBegins s.inFlow x rest then s.plainScalar?
    else none

/-- The tokens of the rest of the text, to its end or to the place where it cannot be read. Every
    token but the last takes at least a character. -/
def run : (fuel : Nat) → Scanner → Array Token
  | 0, s => s.tokens.push .fault
  | fuel + 1, s =>
    match s.next? with
    | none => s.tokens.push .fault
    | some s => if s.tokens.back? = some .streamEnd then s.tokens else run fuel s

end Scanner

def tokens (text : List Char) : List Token :=
  if text.all isAllowed then
    let body := if text.head?.any (·.toNat == 0xFEFF) then text.tail else text
    (Scanner.run (body.length + 1) { cursor := { rest := body } }).toList
  else
    [.fault]

end RegisterMap.Yaml
