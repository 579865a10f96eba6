import RegisterMap.Numeral.Digits

/-! # Tokens of definition files

A definition file is cut into tokens from left to right: comments, identifiers, number literals,
punctuation marks and white space. At each place the first class that matches decides, and takes as
much as it can. Nothing is dropped here: the texts of the tokens, one after the other, are the
file. A text that no class matches ends the scan. -/

namespace RegisterMap.Definition

/-- A place in a file: line and column from one, the column in characters, and the offset in bytes
    from zero. -/
structure Position where
  line : Nat := 1
  column : Nat := 1
  offset : Nat := 0
  deriving DecidableEq, Repr, Inhabited

namespace Position

def after (p : Position) (c : Char) : Position :=
  if c = '\n' then ⟨p.line + 1, 1, p.offset + c.utf8Size⟩
  else ⟨p.line, p.column + 1, p.offset + c.utf8Size⟩

/-- The place after a text. -/
def advance (p : Position) (cs : List Char) : Position :=
  cs.foldl after p

/-- The place in words, with the name of the file unless it is empty. -/
def text (p : Position) (file : String) : String :=
  let place := Numeral.decimal p.line ++ ":" ++ Numeral.decimal p.column
  if file = "" then place else file ++ ":" ++ place

end Position

/-- The classes of tokens. -/
inductive TokenClass where
  | comment | identifier | number | punctuation | blank
  deriving DecidableEq, Repr

/-- A token with its place. -/
structure Token where
  tokenClass : TokenClass
  text : String
  position : Position
  deriving DecidableEq, Repr

/-! ## Lexemes

Each class is a function from the rest of the file to the text of the token at its start. -/

/-- The letters an identifier may start with. -/
def isIdentifierStart (c : Char) : Bool :=
  ('a' ≤ c && c ≤ 'z') || ('A' ≤ c && c ≤ 'Z') || c == '_'

/-- The characters of an identifier, dashes apart. -/
def isIdentifierPart (c : Char) : Bool :=
  isIdentifierStart c || ('0' ≤ c && c ≤ '9')

/-- The rest of an identifier: parts, and single dashes that a part follows. -/
def identifierRest : List Char → List Char
  | '-' :: c :: cs => if isIdentifierPart c then '-' :: c :: identifierRest cs else []
  | c :: cs => if isIdentifierPart c then c :: identifierRest cs else []
  | [] => []

/-- Whether a character is a digit in a base up to 16. -/
def isDigitOf (base : Nat) (c : Char) : Bool :=
  match Numeral.digitValue? c with
  | some d => d < base
  | none => false

/-- The number literal at the start of a text that starts with a digit. A base mark counts only if
    a digit follows it. -/
def numberLexeme (cs : List Char) : List Char :=
  match cs with
  | '0' :: mark :: c :: rest =>
    let base := if mark == 'x' || mark == 'X' then 16
      else if mark == 'b' || mark == 'B' then 2
      else if mark == 'o' || mark == 'O' then 8 else 0
    if isDigitOf base c then '0' :: mark :: c :: rest.takeWhile (isDigitOf base)
    else cs.takeWhile (isDigitOf 10)
  | _ => cs.takeWhile (isDigitOf 10)

/-- The white space between tokens. -/
def isTokenBlank (c : Char) : Bool :=
  c == '\t' || c == '\n' || c.toNat == 12 || c == '\r' || c == ' '

/-- The punctuation marks. -/
def isPunctuation (c : Char) : Bool :=
  "\x7b\x7d()[];:,=-".toList.contains c

/-- The class and the text of the token at the start of a text. -/
def lexeme? (cs : List Char) : Option (TokenClass × List Char) :=
  match cs with
  | [] => none
  | c :: rest =>
    if c = '/' then
      match rest with
      | '/' :: body =>
        some (.comment, '/' :: '/' :: body.takeWhile fun c => c != '\r' && c != '\n')
      | _ => none
    else if isIdentifierStart c then some (.identifier, c :: identifierRest rest)
    else if isDigitOf 10 c then some (.number, numberLexeme cs)
    else if isPunctuation c then some (.punctuation, [c])
    else if isTokenBlank c then some (.blank, cs.takeWhile isTokenBlank)
    else none

/-! ## Scanning -/

/-- What a scan yields: the tokens, the place after them and, if no class matched there, the text
    that is left. -/
structure Scan where
  tokens : List Token
  stop : Position
  left : List Char := []
  deriving Repr

/-- Scans a text that starts at `p` and has at most `fuel` tokens. -/
def scanFrom : (fuel : Nat) → (p : Position) → List Char → Scan
  | _, p, [] => ⟨[], p, []⟩
  | 0, p, cs => ⟨[], p, cs⟩
  | fuel + 1, p, cs =>
    match lexeme? cs with
    | none => ⟨[], p, cs⟩
    | some (tokenClass, text) =>
      let rest := scanFrom fuel (p.advance text) (cs.drop text.length)
      { rest with tokens := ⟨tokenClass, String.ofList text, p⟩ :: rest.tokens }

/-- Scans a file. No token is empty, so there are at most as many as characters. -/
def scan (source : List Char) : Scan :=
  scanFrom source.length {} source

end RegisterMap.Definition
