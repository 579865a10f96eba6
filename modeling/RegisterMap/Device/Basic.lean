import RegisterMap.Device.Direction
import RegisterMap.Value.Basic

/-! # Devices, registers and fields

A device is a list of registers, and a register a list of fields and constants. A field is a
scalar, an array of scalars or another register; the register it holds is named by its index in the
device's table, so that two fields hold the same register exactly if they hold the same index.

Nothing here is validated: a `Device` may be any collection of registers, with fields that hold
registers outside the device (`foreign`), share them or form cycles. `Device.Validation` says which
devices are consistent. -/

namespace RegisterMap

/-- A named run of bits inside an unsigned field, both ends included. It describes the field and
    plays no part in coding it. -/
structure BitRange where
  name : String
  first : Int
  last : Int
  deriving DecidableEq, Repr

namespace BitRange

/-- The 64-bit word with the bits of the range set. Bits outside the word do not count. -/
def mask (b : BitRange) : Nat :=
  let width := b.last - b.first + 1
  if 64 ≤ width then
    Nat.pow 2 64 - 1
  else
    let ones := if 0 ≤ width then Nat.pow 2 width.toNat - 1 else Nat.pow 2 64 - 1
    if 0 ≤ b.first ∧ b.first < 64 then ones * Nat.pow 2 b.first.toNat % Nat.pow 2 64 else 0

def text (b : BitRange) : String :=
  if b.first = b.last then
    s!"{b.name} (bit {Numeral.signedDecimal b.first})"
  else
    s!"{b.name} (bits {Numeral.signedDecimal b.first}-{Numeral.signedDecimal b.last})"

end BitRange

/-- A field of a register. If `register` is set the field holds that register of the table;
    otherwise it holds `count` scalars of the kind, or a single one if the count is zero. -/
structure Field where
  name : String
  kind : Kind := Kind.none
  count : Int := 0
  register : Option Nat := none
  /-- The access the definition declares for the field. It does not filter fields on the wire. -/
  access : Direction := ⟨false, false, 0⟩
  bits : List BitRange := []
  doc : List String := []
  deriving DecidableEq, Repr

/-- A named value that belongs to a register. -/
structure Constant where
  name : String
  value : Value
  doc : List String := []
  deriving DecidableEq, Repr

/-- The fixed layout of one register. -/
structure Register where
  name : String
  id : UInt8
  direction : Direction
  fields : List Field := []
  constants : List Constant := []
  doc : List String := []
  deriving DecidableEq, Repr

/-- A set of registers defined together, and the registers outside it that its fields hold. -/
structure Device where
  name : String
  doc : List String := []
  registers : List Register := []
  foreign : List Register := []
  deriving DecidableEq, Repr

/-- The position of the field with the given name. -/
def Register.fieldIndex? (r : Register) (name : String) : Option Nat :=
  r.fields.findIdx? fun f => f.name == name

namespace Device

/-- All registers a field may hold: the device's own, then the foreign ones. -/
def table (d : Device) : List Register :=
  d.registers ++ d.foreign

/-- The fields of the register at an index of the table. -/
def fieldsOf (d : Device) (i : Nat) : List Field :=
  match d.table[i]? with
  | some r => r.fields
  | none => []

/-- The name of the register at an index of the table. -/
def nameOf (d : Device) (i : Nat) : String :=
  match d.table[i]? with
  | some r => r.name
  | none => ""

/-- The index of the device's first register with the given name. -/
def find? (d : Device) (name : String) : Option Nat :=
  d.registers.findIdx? fun r => r.name == name

/-- The number of bytes of a register, with fields nested at most `fuel` deep. -/
def sizeWithin (d : Device) : (fuel : Nat) → (i : Nat) → Nat
  | 0, _ => 0
  | fuel + 1, i =>
    ((d.fieldsOf i).map fun f =>
      match f.register with
      | some j => d.sizeWithin fuel j
      | none => if 0 < f.count then f.count.toNat * f.kind.size else f.kind.size).sum

/-- The number of bytes of the register at an index. Without cycles no field lies deeper than the
    table is long. -/
def registerSize (d : Device) (i : Nat) : Nat :=
  d.sizeWithin d.table.length i

/-- The number of bytes of a field. -/
def fieldSize (d : Device) (f : Field) : Nat :=
  match f.register with
  | some j => d.registerSize j
  | none => if 0 < f.count then f.count.toNat * f.kind.size else f.kind.size

/-- The type of a field the way a definition writes it. -/
def typeName (d : Device) (f : Field) : String :=
  match f.register with
  | some j => d.nameOf j
  | none =>
    if 0 < f.count then s!"[{Numeral.signedDecimal f.count}]{f.kind.name}" else f.kind.name

end Device

end RegisterMap
