import RegisterMap.Definition.Rule
import RegisterMap.Definition.Tree

/-! # The grammar of definition files

The words of the grammar are ordinary identifiers, so a field may be called `const` and a register
`register`. White space separates tokens and is dropped before parsing. -/

namespace RegisterMap.Definition

namespace Grammar

open Rule Continuation

def comment : Rule String := ofClass "<comment>" .comment
def identifier : Rule String := ofClass "<ident>" .identifier
def number : Rule String := ofClass "<int>" .number

/-- A comment that is kept with its place. -/
def commentLine : Rule Comment :=
  (named "Line" comment).located.map fun (p, text) => ⟨p, text⟩

/-- The letter of an access specifier. -/
def side : Rule Side :=
  alternatives [(word "r").map fun _ => Side.read, (word "w").map fun _ => Side.write]

/-- The optional specifier `:r` or `:w`. -/
def access : Rule (Option Side) :=
  optional <| (sequence (word ":") (andThen side done)).map fun (_, side, _) => side

/-- The last bit of a range, after a dash. -/
def lastBit : Rule String :=
  (sequence (word "-") (andThen number done)).map fun (_, n, _) => n

def bitDecl : Rule BitDecl :=
  named "BitDecl" <| (sequence identifier
    (andThen (word ":") (andThen number (andThen (optional lastBit) done)))).located.map
    fun (p, name, _, first, last, _) => ⟨p, name, first, last⟩

/-- A bit range after a comma. -/
def nextBitDecl : Rule BitDecl :=
  (sequence (word ",") (andThen bitDecl done)).map fun (_, b, _) => b

/-- The bit ranges in braces. -/
def bitList : Rule (List BitDecl) :=
  (sequence (word "\x7b") (andThen bitDecl (andThen (many nextBitDecl)
    (andThen (word "\x7d") done)))).map fun (_, b, bs, _) => b :: bs

def bitDecls : Rule (List BitDecl) :=
  (optional bitList).map fun bits => bits.getD []

def arrayLength : Rule ArraySize :=
  alternatives [number.map ArraySize.number, identifier.map ArraySize.name]

/-- The length of an array in brackets. -/
def arraySize : Rule (Option ArraySize) :=
  optional <| (sequence (word "[") (andThen arrayLength (andThen (word "]") done))).map
    fun (_, size, _) => size

def fieldDecl : Rule FieldDecl :=
  named "FieldDecl" <| (sequence identifier
    (andThen access (andThen arraySize (andThen identifier (andThen bitDecls
      (andThen (word ";") done)))))).located.map
    fun (p, name, access, size, type, bits, _) => ⟨p, name, access, size, type, bits⟩

/-- A number literal with an optional minus sign. -/
def signedNumber : Rule (Bool × String) :=
  (sequence (optional (word "-")) (andThen number done)).map fun (sign, n, _) => (sign.isSome, n)

def constantDecl : Rule ConstantDecl :=
  named "ConstDecl" <| (sequence (word "const")
    (andThen identifier (andThen (word "=") (andThen identifier (andThen (word "(")
      (andThen signedNumber (andThen (word ")") (andThen (word ";") done)))))))).located.map
    fun (p, _, name, _, type, _, (negative, magnitude), _) =>
      ⟨p, name, type, negative, magnitude⟩

def bodyItem : Rule BodyItem :=
  named "BodyItem" <| alternatives
    [commentLine.map .comment, constantDecl.map .constant, fieldDecl.map .field]

def registerDecl : Rule RegisterDecl :=
  named "RegisterDecl" <| (sequence (word "register")
    (andThen identifier (andThen (word "(") (andThen number (andThen (word ")") (andThen access
      (andThen (word "\x7b") (andThen (many bodyItem) (andThen (word "\x7d") (andThen (word ";")
        done)))))))))).located.map
    fun (p, _, name, _, number, _, access, _, items, _) => ⟨p, name, number, access, items⟩

def topItem : Rule TopItem :=
  named "TopItem" <| alternatives [commentLine.map .comment, registerDecl.map .register]

def document : Rule Document :=
  named "Document" <| (sequence (many comment)
    (andThen (word "device") (andThen identifier (andThen (many topItem) done)))).located.map
    fun (p, doc, _, name, items, _) => ⟨p, doc, name, items⟩

end Grammar

/-- Why a file has no syntax tree. -/
inductive SyntaxError where
  /-- No token starts with this text. -/
  | strayText (position : Position) (text : List Char)
  | unexpected (error : Unexpected)
  deriving Repr

namespace SyntaxError

def position : SyntaxError → Position
  | strayText p _ => p
  | unexpected e => e.position

/-- The error in words, without its place. A long text is cut. -/
def reason : SyntaxError → String
  | strayText _ text =>
    let shown := if 16 < text.length then text.take 16 ++ ['.', '.', '.'] else text
    "invalid input text " ++ Text.quoted (String.ofList shown)
  | unexpected e => e.message

end SyntaxError

/-- Parses tokens; all of them have to be used up. -/
def parseTokens (tokens : List Token) (stop : Position) : Except Unexpected Document :=
  match Grammar.document.run { ahead := tokens, stop := stop } with
  | (.matched doc, s) =>
    if s.ahead.isEmpty then
      .ok doc
    else
      match s.deepest with
      | some e => if s.cursor < s.depth then .error e else .error (s.unexpected "")
      | none => .error (s.unexpected "")
  | (.failed e, _) => .error e
  | (.noMatch, s) => .error (s.unexpected "")

/-- Parses a file. Stray text anywhere in it comes before any other error. -/
def parse (source : String) : Except SyntaxError Document :=
  let scanned := scan source.toList
  if scanned.left.isEmpty then
    match parseTokens (scanned.tokens.filter fun t => t.tokenClass != .blank) scanned.stop with
    | .ok doc => .ok doc
    | .error e => .error (.unexpected e)
  else
    .error (.strayText scanned.stop scanned.left)

end RegisterMap.Definition
