import RegisterMap.Definition.Tree
import RegisterMap.Proofs.Definition.Scanning

/-! # Syntax trees as lexemes

`Document.lexemes` writes a tree back as the lexemes of the grammar, in order; white space is left
to `Written`. `Document.unplaced` forgets the places in a tree, which is all that its lexemes do not
say. -/

namespace RegisterMap.Definition

namespace Lexeme

def comment (text : String) : Lexeme := ⟨.comment, text⟩
def identifier (text : String) : Lexeme := ⟨.identifier, text⟩
def number (text : String) : Lexeme := ⟨.number, text⟩
def mark (text : String) : Lexeme := ⟨.punctuation, text⟩

/-- The punctuation marks of the grammar. -/
@[simp] def marks : List String := ["\x7b", "\x7d", "(", ")", "[", "]", ";", ":", ",", "=", "-"]

/-- The words with a meaning in the grammar. -/
@[simp] def keywords : List String := ["device", "register", "const", "r", "w"]

theorem proper_mark {text : String} (member : text ∈ marks) : (mark text).Proper := by
  refine .of_lexeme? nofun ?_
  simp only [marks, List.mem_cons, List.not_mem_nil, or_false] at member
  rcases member with rfl | rfl | rfl | rfl | rfl | rfl | rfl | rfl | rfl | rfl | rfl <;> rfl

theorem proper_keyword {text : String} (member : text ∈ keywords) : (identifier text).Proper := by
  refine .of_lexeme? nofun ?_
  simp only [keywords, List.mem_cons, List.not_mem_nil, or_false] at member
  rcases member with rfl | rfl | rfl | rfl | rfl <;> rfl

end Lexeme

/-! ## Lexemes -/

/-- The letter of an access specifier. -/
def sideLexeme : Side → Lexeme
  | .read => .identifier "r"
  | .write => .identifier "w"

def accessLexemes (access : Option Side) : List Lexeme :=
  access.elim [] fun side => [.mark ":", sideLexeme side]

def BitDecl.lexemes (b : BitDecl) : List Lexeme :=
  .identifier b.name :: .mark ":" :: .number b.first ::
    b.last.elim [] fun n => [.mark "-", .number n]

/-- The bit ranges of a field, in braces unless there are none. -/
def bitLexemes : List BitDecl → List Lexeme
  | [] => []
  | b :: bs =>
    .mark "\x7b" :: (b.lexemes ++ (bs.flatMap (fun b => .mark "," :: b.lexemes) ++ [.mark "\x7d"]))

def ArraySize.lexeme : ArraySize → Lexeme
  | number text => .number text
  | name text => .identifier text

def sizeLexemes (size : Option ArraySize) : List Lexeme :=
  size.elim [] fun s => [.mark "[", s.lexeme, .mark "]"]

def FieldDecl.lexemes (f : FieldDecl) : List Lexeme :=
  .identifier f.name :: (accessLexemes f.access ++ (sizeLexemes f.size ++
    .identifier f.type :: (bitLexemes f.bits ++ [.mark ";"])))

/-- A number with its sign. -/
def signedLexemes (negative : Bool) (magnitude : String) : List Lexeme :=
  (if negative then [.mark "-"] else []) ++ [.number magnitude]

def ConstantDecl.lexemes (c : ConstantDecl) : List Lexeme :=
  .identifier "const" :: .identifier c.name :: .mark "=" :: .identifier c.type :: .mark "(" ::
    (signedLexemes c.negative c.magnitude ++ [.mark ")", .mark ";"])

def BodyItem.lexemes : BodyItem → List Lexeme
  | comment c => [.comment c.text]
  | constant c => c.lexemes
  | field f => f.lexemes

def RegisterDecl.lexemes (r : RegisterDecl) : List Lexeme :=
  .identifier "register" :: .identifier r.name :: .mark "(" :: .number r.number :: .mark ")" ::
    (accessLexemes r.access ++ .mark "\x7b" ::
      (r.items.flatMap BodyItem.lexemes ++ [.mark "\x7d", .mark ";"]))

def TopItem.lexemes : TopItem → List Lexeme
  | comment c => [.comment c.text]
  | register r => r.lexemes

def Document.lexemes (d : Document) : List Lexeme :=
  d.doc.map Lexeme.comment ++ .identifier "device" :: .identifier d.name ::
    d.items.flatMap TopItem.lexemes

/-! ## Trees without places -/

def Comment.unplaced (c : Comment) : Comment := { c with position := {} }

def BitDecl.unplaced (b : BitDecl) : BitDecl := { b with position := {} }

def FieldDecl.unplaced (f : FieldDecl) : FieldDecl :=
  { f with position := {}, bits := f.bits.map BitDecl.unplaced }

def ConstantDecl.unplaced (c : ConstantDecl) : ConstantDecl := { c with position := {} }

def BodyItem.unplaced : BodyItem → BodyItem
  | comment c => comment c.unplaced
  | constant c => constant c.unplaced
  | field f => field f.unplaced

def RegisterDecl.unplaced (r : RegisterDecl) : RegisterDecl :=
  { r with position := {}, items := r.items.map BodyItem.unplaced }

def TopItem.unplaced : TopItem → TopItem
  | comment c => comment c.unplaced
  | register r => register r.unplaced

def Document.unplaced (d : Document) : Document :=
  { d with position := {}, items := d.items.map TopItem.unplaced }

end RegisterMap.Definition
