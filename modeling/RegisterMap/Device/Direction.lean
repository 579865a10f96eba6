import RegisterMap.Numeral.Digits
import RegisterMap.Text.Quoted

/-! # Directions and operations

A register can be read from its device, written to it, or both. Each side has a pair of wire
operations: one that serializes the fields and one that deserializes them. -/

namespace RegisterMap

/-- The side of an exchange with a register. -/
inductive Side where
  | read | write
  deriving DecidableEq, Repr

/-- Which sides a register or field takes part in. Directions are numbered on the outside by a bit
    for each side; what the number holds above these two bits is kept in `surplus`, and no valid
    definition has any. -/
structure Direction where
  read : Bool
  write : Bool
  surplus : Nat := 0
  deriving DecidableEq, Repr, Inhabited

namespace Direction

def readOnly : Direction := ⟨true, false, 0⟩
def writeOnly : Direction := ⟨false, true, 0⟩
def readWrite : Direction := ⟨true, true, 0⟩

def ofNumber (n : Nat) : Direction :=
  ⟨n % 2 == 1, n / 2 % 2 == 1, n / 4⟩

def number (d : Direction) : Nat :=
  d.read.toNat + 2 * d.write.toNat + 4 * d.surplus

def includes (d : Direction) : Side → Bool
  | .read => d.read
  | .write => d.write

/-- Whether `d` has everything that `other` has. -/
def covers (d other : Direction) : Bool :=
  (d.read || !other.read) && (d.write || !other.write)
    && (d.surplus &&& other.surplus) == other.surplus

/-- Whether the direction is read, write or both. -/
def isProper (d : Direction) : Bool :=
  d.surplus == 0 && (d.read || d.write)

/-- The direction in a word. -/
def text (d : Direction) : String :=
  if d = readOnly then "r"
  else if d = writeOnly then "w"
  else if d = readWrite then "rw"
  else s!"Direction({Numeral.decimal d.number})"

/-- The specifier of a definition: nothing for both sides, or one of the letters `r` and `w`. -/
def ofSpecifier? (spec : String) : Option Direction :=
  if spec = "" then some readWrite
  else if spec = "r" then some readOnly
  else if spec = "w" then some writeOnly
  else none

/-- The complaint about an unknown specifier. -/
def unknownSpecifier (spec : String) : String :=
  s!"unknown direction specifier {Text.quoted spec}"

/-- The side on which an exchange in the given direction runs: the write side if the direction is
    write-only, and the read side in every other case. -/
def side (d : Direction) : Side :=
  if d = writeOnly then .write else .read

end Direction

/-- The direction with exactly one side. -/
def Side.direction : Side → Direction
  | .read => .readOnly
  | .write => .writeOnly

/-- The wire operations of a register. -/
inductive Op where
  | serialize (side : Side)
  | deserialize (side : Side)
  /-- An operation number without an operation; it counts to the write side. -/
  | reserved (number : UInt8)
  deriving DecidableEq, Repr

namespace Op

def ofNumber (n : UInt8) : Op :=
  match n with
  | 0 => serialize .read
  | 1 => serialize .write
  | 2 => deserialize .read
  | 3 => deserialize .write
  | n => reserved n

/-- The side an operation belongs to. -/
def side : Op → Side
  | serialize s => s
  | deserialize s => s
  | reserved _ => .write

def text : Op → String
  | serialize .read => "serialize read"
  | serialize .write => "serialize write"
  | deserialize .read => "deserialize read"
  | deserialize .write => "deserialize write"
  | reserved n => s!"Op({Numeral.decimal n.toNat})"

end Op

/-- Whether an operation is legal for the direction. -/
def Direction.allows (d : Direction) (op : Op) : Bool :=
  d.includes op.side

end RegisterMap
