import RegisterMap.Text.Case

/-! # Identifiers of generated code

Names of a definition become exported Go identifiers: the parts between underscores and dashes are
joined, each with its first letter in title case. -/

namespace RegisterMap.Generated

/-- The reserved words of Go. -/
def keywords : List String :=
  ["break", "case", "chan", "const", "continue", "default", "defer", "else", "fallthrough", "for",
   "func", "go", "goto", "if", "import", "interface", "map", "package", "range", "return", "select",
   "struct", "switch", "type", "var"]

/-- Whether a text is a Go identifier: letters, digits and underscores, no digit in front and no
    reserved word. -/
def isIdentifier (s : String) : Bool :=
  match s.toList with
  | [] => false
  | c :: cs =>
    (Text.isLetter c || c == '_')
      && cs.all (fun c => Text.isLetter c || c == '_' || Text.isDecimalDigit c)
      && !keywords.contains s

/-- Whether an identifier is visible outside its package. -/
def isExported (s : String) : Bool :=
  match s.toList with
  | [] => false
  | c :: _ => Text.isUpperCase c

/-- The parts of a name between underscores and dashes, given the part that was begun. -/
def namePartsFrom : (part : List Char) → List Char → List (List Char)
  | part, [] => if part.isEmpty then [] else [part]
  | part, c :: cs =>
    if c == '_' || c == '-' then
      if part.isEmpty then namePartsFrom [] cs else part :: namePartsFrom [] cs
    else
      namePartsFrom (part ++ [c]) cs

/-- The parts of a name between underscores and dashes. -/
def nameParts (cs : List Char) : List (List Char) :=
  namePartsFrom [] cs

/-- The parts of a name, each in title case, without anything between them. -/
def joinTitled (cs : List Char) : String :=
  String.ofList ((nameParts cs).flatMap Text.titleCase)

/-- The name of the type of a register. It keeps the case of each part. -/
def typeName (s : String) : String :=
  joinTitled s.toList

/-- The name of a member or constant. A name without lower-case letters is lowered first. -/
def memberName (s : String) : String :=
  let cs := s.toList
  joinTitled (if cs.map Text.toUpper = cs then cs.map Text.toLower else cs)

end RegisterMap.Generated
