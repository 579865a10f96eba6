import RegisterMap.Device.Validation
import RegisterMap.Generated.Code
import RegisterMap.Generated.Identifier

/-! # Generating a package

`generate` turns a device into a package. Every name of the definition has to become an exported
identifier, and identifiers that meet in one scope have to differ: those of the package (types,
register numbers, masks and constants of all registers), and the members and methods of each
struct. -/

namespace RegisterMap.Generated

/-- Why no package can be generated. -/
inductive GenerateError where
  | badPackage (name : String)
  | inconsistent (error : DefinitionError)
  | invalidName (name what : String)
  | nameClash (name what : String)
  /-- A documentation text cannot stand in a comment. -/
  | unformattable
  deriving DecidableEq, Repr

/-- The error in words; what the formatter says about an unformattable text is not part of it. -/
def GenerateError.message : GenerateError → String
  | badPackage name => s!"invalid package name {Text.quoted name}"
  | inconsistent e => e.message
  | invalidName name what => s!"{what} has no valid Go name (got {Text.quoted name})"
  | nameClash name what => s!"generated name {name} clashes with {what}"
  | unformattable => "format generated code"

/-- The identifiers of a scope, each with what it stands for. -/
abbrev Names := List (String × String)

/-- Adds an identifier to a scope. -/
def Names.add (names : Names) (name what : String) : Except GenerateError Names :=
  match names.lookup name with
  | some earlier => .error (.nameClash name earlier)
  | none => .ok ((name, what) :: names)

/-- Accepts an exported identifier. -/
def checkName (name what : String) : Except GenerateError Unit :=
  if isIdentifier name && isExported name then .ok () else .error (.invalidName name what)

/-! ## Members and constants -/

def shapeOf (d : Device) (f : Field) : Shape :=
  match f.register with
  | some j => .nested (typeName (d.nameOf j))
  | none =>
    if 0 < f.count then
      if f.kind.isFloat then .floats f.kind f.count.toNat else .words f.kind f.count.toNat
    else
      if f.kind.isFloat then .float f.kind else .word f.kind

def Shape.typeText : Shape → String
  | word k => k.name
  | float k => k.name
  | words k n => "[" ++ Numeral.decimal n ++ "]" ++ k.name
  | floats k n => "[" ++ Numeral.decimal n ++ "]" ++ k.name
  | nested t => t

def memberOf (d : Device) (f : Field) : Member :=
  ⟨memberName f.name, shapeOf d f, f.doc⟩

/-- A value as a Go literal: signed and floating-point numbers in decimal, others in
    hexadecimal. -/
def literal (v : Value) : String :=
  if v.kind.isSigned || v.kind.isFloat then v.text else "0x" ++ Numeral.hex v.bits

def maskOf (type : String) (m : Member) (b : BitRange) : ConstantDef :=
  ⟨type ++ m.name ++ memberName b.name ++ "Mask", m.shape.typeText, "0x" ++ Numeral.hex b.mask,
    [b.text]⟩

/-- The constant of a register constant. -/
def constantOf (type : String) (c : Constant) : ConstantDef :=
  ⟨type ++ memberName c.name, c.value.kind.name, literal c.value, c.doc⟩

/-! ## Scopes -/

/-- Enters the masks of a field into the scope of the package. -/
def addMasks (r : Register) (f : Field) (type : String) (m : Member) :
    (scope : Names) → List BitRange → Except GenerateError Names
  | scope, [] => .ok scope
  | scope, b :: bs => do
    let what := s!"bit {b.name} of {r.name}.{f.name}"
    checkName (memberName b.name) what
    let scope ← scope.add (maskOf type m b).name what
    addMasks r f type m scope bs

/-- Enters the fields of a register into the scope of its struct, and their masks into that of the
    package, which it returns. -/
def addFields (d : Device) (r : Register) (type : String) :
    (scope members : Names) → List Field → Except GenerateError Names
  | scope, _, [] => .ok scope
  | scope, members, f :: fs => do
    let what := s!"field {r.name}.{f.name}"
    let m := memberOf d f
    checkName m.name what
    let members ← members.add m.name what
    let scope ← addMasks r f type m scope f.bits
    addFields d r type scope members fs

/-- Enters the constants of a register into the scope of the package. -/
def addConstants (r : Register) (type : String) :
    (scope : Names) → List Constant → Except GenerateError Names
  | scope, [] => .ok scope
  | scope, c :: cs => do
    let what := s!"constant {r.name}.{c.name}"
    checkName (memberName c.name) what
    let scope ← scope.add (constantOf type c).name what
    addConstants r type scope cs

/-- The members every struct has from the start. -/
def methodScope : Names :=
  methodNames.map fun m => (m, "method " ++ m)

/-- Enters everything a register declares into the scope of the package. -/
def addRegister (d : Device) (scope : Names) (r : Register) : Except GenerateError Names := do
  let type := typeName r.name
  checkName type ("register " ++ r.name)
  let scope ← scope.add type ("register " ++ r.name)
  let scope ← scope.add (type ++ "ID") ("id of register " ++ r.name)
  let scope ← addFields d r type scope methodScope r.fields
  addConstants r type scope r.constants

/-- Enters registers one after the other. -/
def addRegisters (d : Device) : (scope : Names) → List Register → Except GenerateError Names
  | scope, [] => .ok scope
  | scope, r :: rs => do
    let scope ← addRegister d scope r
    addRegisters d scope rs

/-! ## Types -/

/-- What a method does, in a sentence without its subject. -/
def operationDoc : Op → String
  | .serialize .read => "writes the fields to buf for a read of the register"
  | .serialize .write => "writes the fields to buf for a write to the register"
  | .deserialize .read => "updates the fields from data read from the device"
  | .deserialize .write => "updates the fields from a write command"
  | .reserved _ => ""

/-- A one-sided direction in words. -/
def directionWords (d : Direction) : String :=
  if d = .readOnly then "read-only" else "write-only"

/-- The method of a register for an operation. A register without bytes needs no guard. -/
def methodOf (d : Device) (r : Register) (size : Nat) (op : Op) : Method :=
  if r.direction.allows op then
    ⟨op, operationDoc op, .run (if size = 0 then none else some size)
      (r.fields.map fun f => ⟨memberName f.name, shapeOf d f⟩)⟩
  else
    ⟨op, s!"always fails, register {r.name} is {directionWords r.direction}", .reject r.name op⟩

/-- The type of the register `r`, which stands at index `i`. -/
def typeOf (d : Device) (i : Nat) (r : Register) : TypeDef :=
  let type := typeName r.name
  let size := d.registerSize i
  { register := r.name
    name := type
    id := r.id
    size := size
    doc := r.doc
    members := r.fields.map (memberOf d)
    constants := r.constants.map (constantOf type)
    masks := r.fields.flatMap fun f => f.bits.map (maskOf type (memberOf d f))
    methods := operations.map (methodOf d r size) }

/-- The types of registers that start at index `i`. -/
def typesFrom (d : Device) : (i : Nat) → List Register → List TypeDef
  | _, [] => []
  | i, r :: rs => typeOf d i r :: typesFrom d (i + 1) rs

/-! ## Documentation that breaks a comment -/

/-- Whether a text can stand in a line comment. -/
def fitsComment (s : String) : Bool :=
  s.toList.all fun c => c.toNat != 0 && c != '\n' && c.toNat != 0xFEFF

/-- Whether all documentation of a device can stand in comments. -/
def documentationFits (d : Device) : Bool :=
  d.doc.all fitsComment && d.registers.all fun r =>
    r.doc.all fitsComment && r.fields.all (fun f => f.doc.all fitsComment)
      && r.constants.all fun c => c.doc.all fitsComment

def generate (d : Device) (package : String) : Except GenerateError Package := do
  if !isIdentifier package then
    throw (.badPackage package)
  match d.validate with
  | .error e => throw (.inconsistent e)
  | .ok () => pure ()
  let _ ← addRegisters d [] d.registers
  if !documentationFits d then
    throw .unformattable
  return { name := package, doc := d.doc, types := typesFrom d 0 d.registers }

end RegisterMap.Generated
