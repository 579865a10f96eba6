import RegisterMap.Definition.Token
import RegisterMap.Device.Direction

/-! # Syntax trees of definition files

The tree keeps every token that carries meaning and the place of each declaration. Numbers stay
texts: which of them are legal is decided later. -/

namespace RegisterMap.Definition

/-- A comment with its marks. -/
structure Comment where
  position : Position
  text : String
  deriving DecidableEq, Repr

/-- A run of bits: a name, the first bit and, unless it is the same, the last one. -/
structure BitDecl where
  position : Position
  name : String
  first : String
  last : Option String
  deriving DecidableEq, Repr

/-- The length of an array as written. -/
inductive ArraySize where
  | number (text : String)
  | name (text : String)
  deriving DecidableEq, Repr

/-- The text of an array length. -/
def ArraySize.text : ArraySize → String
  | number s => s
  | name s => s

/-- A field: a scalar, an array or a register that was declared before. -/
structure FieldDecl where
  position : Position
  name : String
  access : Option Side
  size : Option ArraySize
  type : String
  bits : List BitDecl
  deriving DecidableEq, Repr

/-- A constant of a register. -/
structure ConstantDecl where
  position : Position
  name : String
  type : String
  negative : Bool
  magnitude : String
  deriving DecidableEq, Repr

/-- The value of a constant, its sign and number joined. -/
def ConstantDecl.value (c : ConstantDecl) : String :=
  if c.negative then "-" ++ c.magnitude else c.magnitude

/-- What stands between the braces of a register. -/
inductive BodyItem where
  | comment (comment : Comment)
  | constant (constant : ConstantDecl)
  | field (field : FieldDecl)
  deriving DecidableEq, Repr

structure RegisterDecl where
  position : Position
  name : String
  number : String
  access : Option Side
  items : List BodyItem
  deriving DecidableEq, Repr

/-- What stands after the name of the device. -/
inductive TopItem where
  | comment (comment : Comment)
  | register (register : RegisterDecl)
  deriving DecidableEq, Repr

/-- A definition file: comments, the name of the device, registers and comments. -/
structure Document where
  position : Position
  doc : List String
  name : String
  items : List TopItem
  deriving DecidableEq, Repr

end RegisterMap.Definition
