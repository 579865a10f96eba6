import RegisterMap.Device.Containment
import RegisterMap.Device.Error

/-! # Validation

`Device.validate` goes through the registers in order and reports the first fault. For a register
it checks the direction, then field by field the name, the type, the access and the bit ranges,
and at last the names of the constants. For the device it adds that register numbers and names are
unique and that fields hold registers of the device itself. -/

namespace RegisterMap.Device

/-- Fails with a fault of the given register if the condition holds. -/
def refuseIf (condition : Bool) (register : String) (fault : DefinitionFault) :
    Except DefinitionError Unit :=
  if condition then .error ⟨register, fault⟩ else .ok ()

/-- Checks the type of a field that holds scalars. -/
def checkScalarType (r : Register) (f : Field) : Except DefinitionError Unit := do
  refuseIf (!f.kind.isScalar) r.name (.missingType f.name)
  refuseIf (f.count < 0) r.name (.negativeCount f.name f.count)
  refuseIf (0 < f.count && !f.bits.isEmpty) r.name (.arrayWithBits f.name)

/-- Checks the type of a field of register `i` that holds register `j`: every operation on the
    outer register runs on the inner one too, so the inner direction covers the outer one. -/
def checkRegisterType (d : Device) (i : Nat) (r : Register) (f : Field) (j : Nat) :
    Except DefinitionError Unit := do
  refuseIf (f.count != 0) r.name (.arrayOfRegisters f.name)
  refuseIf (!f.bits.isEmpty) r.name (.registerWithBits f.name)
  refuseIf (d.contains j i) r.name (.containsOuter f.name (d.nameOf j) r.name)
  match d.table[j]? with
  | some inner =>
    refuseIf (!inner.direction.covers r.direction) r.name
      (.innerDirection f.name inner.name inner.direction r.name r.direction)
  | none => .ok ()

/-- Checks the type of a field of register `i`. -/
def checkType (d : Device) (i : Nat) (r : Register) (f : Field) : Except DefinitionError Unit :=
  match f.register with
  | some j => d.checkRegisterType i r f j
  | none => checkScalarType r f

/-- Checks that the access of a field does not go beyond a one-sided register. -/
def checkAccess (r : Register) (f : Field) : Except DefinitionError Unit := do
  refuseIf (r.direction = .readOnly && f.access.write) r.name (.writableInReadOnly f.name)
  refuseIf (r.direction = .writeOnly && f.access.read) r.name (.readableInWriteOnly f.name)

def checkBitRange (r : Register) (f : Field) (b : BitRange) : Except DefinitionError Unit := do
  refuseIf (b.first < 0) r.name (.negativeBit f.name b.name b.first)
  refuseIf (b.last < b.first) r.name (.reversedBits f.name b.name b.first b.last)
  refuseIf (f.kind.bits ≤ b.last) r.name (.bitBeyondKind f.name b.name b.last f.kind)

/-- Checks bit ranges one after the other. -/
def checkBitRanges (r : Register) (f : Field) : List BitRange → Except DefinitionError Unit
  | [] => .ok ()
  | b :: bs => do
    checkBitRange r f b
    checkBitRanges r f bs

/-- Checks the bit ranges of a field, which only unsigned fields have. -/
def checkBits (r : Register) (f : Field) : Except DefinitionError Unit := do
  refuseIf (!f.bits.isEmpty && !f.kind.isUnsigned) r.name (.bitsOfKind f.name f.kind)
  checkBitRanges r f f.bits

/-- Checks fields one after the other against the names before them, and returns all names. -/
def checkFields (d : Device) (i : Nat) (r : Register) :
    (names : List String) → List Field → Except DefinitionError (List String)
  | names, [] => .ok names
  | names, f :: fs => do
    refuseIf (names.contains f.name) r.name (.duplicateField f.name)
    d.checkType i r f
    checkAccess r f
    checkBits r f
    d.checkFields i r (f.name :: names) fs

/-- Checks that the names of constants are new. -/
def checkConstants (r : Register) :
    (names : List String) → List Constant → Except DefinitionError Unit
  | _, [] => .ok ()
  | names, c :: cs => do
    refuseIf (names.contains c.name) r.name (.duplicateName c.name)
    checkConstants r (c.name :: names) cs

/-- Checks the register `r`, which stands at index `i`. -/
def checkRegister (d : Device) (i : Nat) (r : Register) : Except DefinitionError Unit := do
  refuseIf (!r.direction.isProper) r.name (.badDirection r.direction)
  let names ← d.checkFields i r [] r.fields
  checkConstants r names r.constants

/-- Checks that fields hold registers of the device itself. -/
def checkOwnership (d : Device) (r : Register) : List Field → Except DefinitionError Unit
  | [] => .ok ()
  | f :: fs => do
    match f.register with
    | some j =>
      refuseIf (d.find? (d.nameOf j) != some j) r.name
        (.foreignRegister f.name (d.nameOf j) d.name)
    | none => .ok ()
    d.checkOwnership r fs

/-- Checks registers one after the other, starting at index `i`, against those before them. -/
def checkRegisters (d : Device) :
    (i : Nat) → (earlier : List (UInt8 × String)) → List Register → Except DefinitionError Unit
  | _, _, [] => .ok ()
  | i, earlier, r :: rs => do
    match earlier.lookup r.id with
    | some other => .error ⟨"", .duplicateNumber r.id other r.name⟩
    | none => .ok ()
    refuseIf (earlier.any fun e => e.2 == r.name) "" (.duplicateRegister r.name)
    d.checkRegister i r
    d.checkOwnership r r.fields
    d.checkRegisters (i + 1) ((r.id, r.name) :: earlier) rs

/-- Accepts exactly the consistent devices, and reports the first fault of any other. -/
def validate (d : Device) : Except DefinitionError Unit :=
  d.checkRegisters 0 [] d.registers

/-- Checks the register at an index of the table. -/
def validateRegister (d : Device) (i : Nat) : Except DefinitionError Unit :=
  match d.table[i]? with
  | some r => d.checkRegister i r
  | none => .ok ()

end RegisterMap.Device
