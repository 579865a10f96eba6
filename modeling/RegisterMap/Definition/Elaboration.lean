import RegisterMap.Definition.Grammar
import RegisterMap.Device.Validation
import RegisterMap.Text.Blank

/-! # From syntax trees to devices

`load` turns the tree of a definition file into a validated device. Declarations are taken in
order, so a field can hold only a register that was declared before it, and the first problem is
the one reported.

Comments become documentation. A comment outside the registers belongs to the next register. Inside
a register it belongs to the declaration before it if it follows something on its own line, and to
the next declaration otherwise; a comment after the last declaration belongs to nothing. -/

namespace RegisterMap.Definition

/-! ## Errors -/

/-- What is wrong with the type or the length of a field. -/
inductive FieldFault where
  | containsItself (register : String)
  | declaredLater (type register : String)
  | unknownType (error : CodecError)
  | variableLength (size : String)
  | badLength (size : String)
  deriving DecidableEq, Repr

def FieldFault.message : FieldFault → String
  | containsItself r => s!"register {r} cannot contain itself"
  | declaredLater t r => s!"register {t} must be declared before {r}"
  | unknownType e => e.message
  | variableLength n => s!"variable-length array [{n}] is not supported"
  | badLength n => s!"array size {n} must be in 1..65535"

/-- What is wrong with a declaration. -/
inductive DeclarationFault where
  | registerNumber (register number : String)
  | constantType (error : CodecError)
  | constantValue (register constant : String) (error : CodecError)
  | field (register field : String) (fault : FieldFault)
  | bitPosition (register field bit position : String)
  | inconsistent (error : DefinitionError)
  deriving DecidableEq, Repr

def DeclarationFault.message : DeclarationFault → String
  | registerNumber r n => s!"register {r}: number {n} must be in 0..255"
  | constantType e => e.message
  | constantValue r c e => s!"constant {r}.{c}: {e.message}"
  | field r f fault => s!"field {r}.{f}: {fault.message}"
  | bitPosition r f b p => s!"bit field {r}.{f}.{b}: bit position {p} is too large"
  | inconsistent e => e.message

/-- Why a file defines no device. -/
inductive LoadError where
  | malformed (error : SyntaxError)
  | declaration (position : Position) (fault : DeclarationFault)
  | inconsistent (error : DefinitionError)
  deriving Repr

/-- The error in words, for a file of the given name. -/
def LoadError.message (file : String) : LoadError → String
  | malformed e => e.position.text file ++ ": " ++ e.reason
  | declaration p fault => p.text file ++ ": " ++ fault.message
  | inconsistent e => e.message

/-! ## Comments -/

/-- The text of a comment without its marks and without white space around it. -/
def commentText (comment : String) : String :=
  let cs := comment.toList
  String.ofList (Text.trimmed (if cs.take 2 == ['/', '/'] then cs.drop 2 else cs))

/-- The characters before a byte offset. -/
def textBefore : (offset : Nat) → List Char → List Char
  | 0, _ => []
  | _, [] => []
  | offset, c :: cs => c :: textBefore (offset - c.utf8Size) cs

/-- Whether something other than white space stands before an offset on its line. -/
def followsText (source : List Char) (offset : Nat) : Bool :=
  ((textBefore offset source).reverse.takeWhile (· != '\n')).any fun c => !Text.isBlank c

/-! ## Declarations -/

/-- The bits of a range: positions of at most 16 bits. -/
def bitPosition? (register field bit text : String) : Except DeclarationFault Nat :=
  let reading := Numeral.readUnsigned text.toList 16
  match reading.fault with
  | some _ => .error (.bitPosition register field bit text)
  | none => .ok reading.value

/-- A bit range; without a last bit it has the first one only. -/
def bitRange? (register field : String) (decl : BitDecl) : Except DeclarationFault BitRange := do
  let first ← bitPosition? register field decl.name decl.first
  let last ← match decl.last with
    | some text => bitPosition? register field decl.name text
    | none => .ok first
  return ⟨decl.name, first, last⟩

/-- Bit ranges up to the first bad one, whose place goes with the fault. -/
def bitRanges? (register field : String) :
    List BitDecl → Except (Position × DeclarationFault) (List BitRange)
  | [] => .ok []
  | decl :: decls =>
    match bitRange? register field decl with
    | .error fault => .error (decl.position, fault)
    | .ok range =>
      match bitRanges? register field decls with
      | .error e => .error e
      | .ok ranges => .ok (range :: ranges)

/-- What declarations refer to: the registers before, and the names of all registers. -/
structure Scope where
  built : List Register
  declared : List String

/-- The index of the first register built under a name. -/
def Scope.find? (scope : Scope) (name : String) : Option Nat :=
  scope.built.findIdx? fun r => r.name == name

/-- The kind or the register a field of register `outer` holds. -/
def fieldType? (scope : Scope) (outer type : String) : Except FieldFault (Kind × Option Nat) :=
  match Kind.ofName? type with
  | some kind => .ok (kind, none)
  | none =>
    match scope.find? type with
    | some i => .ok (Kind.none, some i)
    | none =>
      if type = outer then .error (.containsItself outer)
      else if scope.declared.contains type then .error (.declaredLater type outer)
      else .error (.unknownType (.unknownKind type))

/-- The length of an array, zero if the field is none. -/
def arrayLength? : Option ArraySize → Except FieldFault Nat
  | none => .ok 0
  | some (.name text) => .error (.variableLength text)
  | some (.number text) =>
    let reading := Numeral.readUnsigned text.toList 16
    if reading.fault.isSome || reading.value == 0 then .error (.badLength text)
    else .ok reading.value

/-- A field of a register. Without a specifier it has the access of the register. -/
def field? (scope : Scope) (outer : Register) (decl : FieldDecl) (doc : List String) :
    Except (Position × DeclarationFault) Field :=
  let access := match decl.access with
    | some side => side.direction
    | none => outer.direction
  match fieldType? scope outer.name decl.type with
  | .error fault => .error (decl.position, .field outer.name decl.name fault)
  | .ok (kind, register) =>
    match arrayLength? decl.size with
    | .error fault => .error (decl.position, .field outer.name decl.name fault)
    | .ok count =>
      match bitRanges? outer.name decl.name decl.bits with
      | .error e => .error e
      | .ok bits => .ok { name := decl.name, kind, count, register, access, bits, doc }

def constant? (outer : Register) (decl : ConstantDecl) (doc : List String) :
    Except (Position × DeclarationFault) Constant :=
  match Kind.ofName? decl.type with
  | none => .error (decl.position, .constantType (.unknownKind decl.type))
  | some kind =>
    match Value.parse? kind decl.value with
    | .error e => .error (decl.position, .constantValue outer.name decl.name e)
    | .ok value => .ok { name := decl.name, value, doc }

/-! ## Registers -/

/-- The kind of the last declaration of a register. -/
inductive LastDeclaration where
  | constant | field
  deriving DecidableEq, Repr

/-- A register under construction: its fields and constants so far, in order, the comments that
    wait for the next declaration, and the kind of the last one. -/
structure Draft where
  register : Register
  pending : List String := []
  last : Option LastDeclaration := none
  deriving Repr

/-- Adds a text to the documentation of the last element of a list. -/
def documentLast {α : Type} (document : α → α) (xs : List α) : List α :=
  match xs.reverse with
  | [] => []
  | x :: rest => (document x :: rest).reverse

/-- Adds a comment to the last declaration. -/
def Draft.documentLast (draft : Draft) (kind : LastDeclaration) (text : String) : Draft :=
  let r := draft.register
  match kind with
  | .field =>
    { draft with register := { r with
        fields := Definition.documentLast (fun f => { f with doc := f.doc ++ [text] }) r.fields } }
  | .constant =>
    { draft with register := { r with
        constants :=
          Definition.documentLast (fun c => { c with doc := c.doc ++ [text] }) r.constants } }

/-- Takes one item of the body of a register. -/
def Draft.add (source : List Char) (scope : Scope) (draft : Draft) :
    BodyItem → Except (Position × DeclarationFault) Draft
  | .comment c =>
    let text := commentText c.text
    match draft.last with
    | some kind =>
      if followsText source c.position.offset then .ok (draft.documentLast kind text)
      else .ok { draft with pending := draft.pending ++ [text] }
    | none => .ok { draft with pending := draft.pending ++ [text] }
  | .constant decl =>
    match constant? draft.register decl draft.pending with
    | .error e => .error e
    | .ok c =>
      let r := draft.register
      .ok ⟨{ r with constants := r.constants ++ [c] }, [], some .constant⟩
  | .field decl =>
    match field? scope draft.register decl draft.pending with
    | .error e => .error e
    | .ok f =>
      let r := draft.register
      .ok ⟨{ r with fields := r.fields ++ [f] }, [], some .field⟩

/-- Takes the items of the body of a register in order. -/
def Draft.addAll (source : List Char) (scope : Scope) :
    Draft → List BodyItem → Except (Position × DeclarationFault) Draft
  | draft, [] => .ok draft
  | draft, item :: items =>
    match draft.add source scope item with
    | .error e => .error e
    | .ok draft => Draft.addAll source scope draft items

/-- The direction a declaration gives a register: both sides unless it names one. -/
def declaredDirection (access : Option Side) : Direction :=
  match access with
  | some side => side.direction
  | none => .readWrite

/-- A register with the documentation gathered before it, checked together with the registers it
    may hold. -/
def register? (source : List Char) (device : String) (scope : Scope) (decl : RegisterDecl)
    (doc : List String) : Except (Position × DeclarationFault) Register :=
  let number := Numeral.readUnsigned decl.number.toList 8
  match number.fault with
  | some _ => .error (decl.position, .registerNumber decl.name decl.number)
  | none =>
    let start : Register :=
      { name := decl.name, id := UInt8.ofNat number.value,
        direction := declaredDirection decl.access, doc }
    match Draft.addAll source scope ⟨start, [], none⟩ decl.items with
    | .error e => .error e
    | .ok draft =>
      let r := draft.register
      let d : Device := { name := device, registers := scope.built ++ [r] }
      match d.checkRegister scope.built.length r with
      | .error e => .error (decl.position, .inconsistent e)
      | .ok () => .ok r

/-! ## Devices -/

/-- The names of the registers a document declares. -/
def Document.declared (doc : Document) : List String :=
  doc.items.filterMap fun
    | .register r => some r.name
    | .comment _ => none

/-- Takes the items of a document in order. `pending` holds the comments that wait for the next
    register. -/
def registers? (source : List Char) (device : String) (declared : List String) :
    (built : List Register) → (pending : List String) → List TopItem →
      Except (Position × DeclarationFault) (List Register)
  | built, _, [] => .ok built
  | built, pending, .comment c :: items =>
    registers? source device declared built (pending ++ [commentText c.text]) items
  | built, pending, .register decl :: items =>
    match register? source device ⟨built, declared⟩ decl pending with
    | .error e => .error e
    | .ok r => registers? source device declared (built ++ [r]) [] items

/-- The device a document describes, not yet validated as a whole. -/
def Document.device? (doc : Document) (source : List Char) :
    Except (Position × DeclarationFault) Device :=
  match registers? source doc.name doc.declared [] [] doc.items with
  | .error e => .error e
  | .ok registers => .ok { name := doc.name, doc := doc.doc.map commentText, registers }

/-- The validated device a definition file describes. -/
def load (source : String) : Except LoadError Device :=
  match parse source with
  | .error e => .error (.malformed e)
  | .ok doc =>
    match doc.device? source.toList with
    | .error (p, fault) => .error (.declaration p fault)
    | .ok device =>
      match device.validate with
      | .error e => .error (.inconsistent e)
      | .ok () => .ok device

end RegisterMap.Definition
