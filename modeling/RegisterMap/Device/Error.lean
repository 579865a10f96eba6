import RegisterMap.Device.Basic

/-! # Inconsistent definitions

What can be wrong with a register or a device, one constructor for each rule, and the words for
it. -/

namespace RegisterMap

/-- A rule of consistency that a register or device breaks. -/
inductive DefinitionFault where
  | badDirection (direction : Direction)
  | duplicateField (field : String)
  | missingType (field : String)
  | negativeCount (field : String) (count : Int)
  | arrayWithBits (field : String)
  | arrayOfRegisters (field : String)
  | registerWithBits (field : String)
  | containsOuter (field inner outer : String)
  | innerDirection (field inner : String) (innerDirection : Direction) (outer : String)
      (outerDirection : Direction)
  | writableInReadOnly (field : String)
  | readableInWriteOnly (field : String)
  | bitsOfKind (field : String) (kind : Kind)
  | negativeBit (field bit : String) (first : Int)
  | reversedBits (field bit : String) (first last : Int)
  | bitBeyondKind (field bit : String) (last : Int) (kind : Kind)
  | duplicateName (constant : String)
  | duplicateNumber (id : UInt8) (earlier later : String)
  | duplicateRegister (register : String)
  | foreignRegister (field inner device : String)
  deriving DecidableEq, Repr

namespace DefinitionFault

def message : DefinitionFault → String
  | badDirection d => s!"bad direction {d.text}"
  | duplicateField f => s!"duplicate field {f}"
  | missingType f => s!"field {f} has no type"
  | negativeCount f n => s!"field {f}: negative array size {Numeral.signedDecimal n}"
  | arrayWithBits f => s!"array field {f} cannot have bit fields"
  | arrayOfRegisters f => s!"field {f}: arrays of registers are not supported"
  | registerWithBits f => s!"register field {f} cannot have bit fields"
  | containsOuter f inner outer => s!"field {f}: register {inner} contains {outer}"
  | innerDirection f inner di outer dr =>
    s!"field {f}: register {inner} is {di.text}, {outer} is {dr.text}"
  | writableInReadOnly f => s!"field {f} cannot be writable because register is read-only"
  | readableInWriteOnly f => s!"field {f} cannot be readable because register is write-only"
  | bitsOfKind f k => s!"bit field {f} must use unsigned integer type, got {k.name}"
  | negativeBit f b n => s!"bit field {f}.{b}: negative bit position {Numeral.signedDecimal n}"
  | reversedBits f b first last =>
    s!"bit field {f}.{b}: start bit {Numeral.signedDecimal first} is greater than end bit "
      ++ Numeral.signedDecimal last
  | bitBeyondKind f b last k => s!"bit field {f}.{b}: bit {Numeral.signedDecimal last} exceeds {k.name}"
  | duplicateName c => s!"duplicate name {c}"
  | duplicateNumber id earlier later =>
    s!"duplicate register number {Numeral.decimal id.toNat} ({earlier} and {later})"
  | duplicateRegister r => s!"duplicate register name {r}"
  | foreignRegister f inner device =>
    s!"field {f}: register {inner} is not defined by device {device}"

end DefinitionFault

/-- A fault and the register it was found in; the register is empty for a fault of the device. -/
structure DefinitionError where
  register : String
  fault : DefinitionFault
  deriving DecidableEq, Repr

def DefinitionError.message (e : DefinitionError) : String :=
  if e.register = "" then s!"invalid device definition: {e.fault.message}"
  else s!"invalid register {e.register}: {e.fault.message}"

end RegisterMap
