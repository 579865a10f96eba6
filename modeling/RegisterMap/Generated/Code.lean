import RegisterMap.Device.Basic
import RegisterMap.Group.Error

/-! # Generated packages

The code generated for a device is a Go package with one struct type for each register. This module
holds its syntax: types with their members, constants and masks, and for each type the four wire
methods. A method either rejects the operation, because the register lacks that side, or checks the
length of the buffer and then runs one step for each member at a running offset. -/

namespace RegisterMap.Generated

/-- The type of a struct member, which also decides how a step codes it. -/
inductive Shape where
  /-- An integer, coded by itself. -/
  | word (kind : Kind)
  /-- A floating-point number, coded by its pattern. -/
  | float (kind : Kind)
  /-- An array of integers, coded as one slice. -/
  | words (kind : Kind) (count : Nat)
  /-- An array of floating-point numbers, coded element by element. -/
  | floats (kind : Kind) (count : Nat)
  /-- Another generated type, coded by its method of the same name. -/
  | nested (type : String)
  deriving DecidableEq, Repr

/-- A member of a struct. -/
structure Member where
  name : String
  shape : Shape
  doc : List String := []
  deriving DecidableEq, Repr

/-- A typed constant with its literal. -/
structure ConstantDef where
  name : String
  type : String
  literal : String
  doc : List String := []
  deriving DecidableEq, Repr

/-- A step of a wire method: codes one member at the running offset, and ends the method if that
    fails. -/
structure Step where
  member : String
  shape : Shape
  deriving DecidableEq, Repr

/-- The body of a wire method. -/
inductive Body where
  /-- Fails because the register does not support the operation. -/
  | reject (register : String) (op : Op)
  /-- Fails if the buffer is shorter than the guard, and else runs the steps. A deserializing method
      works on a copy of the struct and assigns it at the end. -/
  | run (guard : Option Nat) (steps : List Step)
  deriving DecidableEq, Repr

/-- A wire method. -/
structure Method where
  op : Op
  doc : String
  body : Body
  deriving DecidableEq, Repr

/-- The type generated for a register. -/
structure TypeDef where
  register : String
  name : String
  id : UInt8
  size : Nat
  doc : List String := []
  members : List Member := []
  constants : List ConstantDef := []
  masks : List ConstantDef := []
  methods : List Method := []
  deriving DecidableEq, Repr

structure Package where
  name : String
  doc : List String := []
  types : List TypeDef := []
  deriving DecidableEq, Repr

def methodName : Op → String
  | .serialize .read => "SerializeRead"
  | .serialize .write => "SerializeWrite"
  | .deserialize .read => "DeserializeRead"
  | .deserialize .write => "DeserializeWrite"
  | .reserved _ => ""

/-- The operations that have a method, in the order of the methods. -/
def operations : List Op :=
  [.serialize .read, .serialize .write, .deserialize .read, .deserialize .write]

/-- The names of all methods of a generated type. -/
def methodNames : List String :=
  "ID" :: "Size" :: operations.map methodName

def Package.type? (p : Package) (name : String) : Option TypeDef :=
  p.types.find? fun t => t.name == name

def TypeDef.method? (t : TypeDef) (op : Op) : Option Method :=
  t.methods.find? fun m => m.op == op

end RegisterMap.Generated
