/-! # Scalar kinds

A register field holds scalars of one kind: an integer of 8 to 64 bits, signed or not, or one of
the two binary floating-point formats. Kinds are numbered on the outside; a number that names no
kind is kept as `reserved`, so that a definition that was never validated can still be described
and two such numbers stay distinct. -/

namespace RegisterMap

/-- The scalar type of a register field. -/
inductive Kind where
  | uint8 | int8 | uint16 | int16 | uint32 | int32 | uint64 | int64 | float32 | float64
  /-- A kind number without a scalar type; `0` stands for "no kind given". -/
  | reserved (number : UInt8)
  deriving DecidableEq, Repr, Inhabited

namespace Kind

/-- The absent kind. -/
def none : Kind := .reserved 0

/-- The ten scalar kinds, in the order of their numbers. -/
def scalars : List Kind :=
  [uint8, int8, uint16, int16, uint32, int32, uint64, int64, float32, float64]

def ofNumber (n : UInt8) : Kind :=
  match n with
  | 1 => uint8
  | 2 => int8
  | 3 => uint16
  | 4 => int16
  | 5 => uint32
  | 6 => int32
  | 7 => uint64
  | 8 => int64
  | 9 => float32
  | 10 => float64
  | n => reserved n

def number : Kind → UInt8
  | uint8 => 1
  | int8 => 2
  | uint16 => 3
  | int16 => 4
  | uint32 => 5
  | int32 => 6
  | uint64 => 7
  | int64 => 8
  | float32 => 9
  | float64 => 10
  | reserved n => n

/-- The name a definition uses for the kind. -/
def name : Kind → String
  | uint8 => "uint8"
  | int8 => "int8"
  | uint16 => "uint16"
  | int16 => "int16"
  | uint32 => "uint32"
  | int32 => "int32"
  | uint64 => "uint64"
  | int64 => "int64"
  | float32 => "float32"
  | float64 => "float64"
  | reserved _ => "invalid"

/-- The scalar kind with the given name. -/
def ofName? (s : String) : Option Kind :=
  scalars.find? fun k => k.name == s

/-- The number of bytes of the kind on the wire. -/
def size : Kind → Nat
  | uint8 | int8 => 1
  | uint16 | int16 => 2
  | uint32 | int32 | float32 => 4
  | uint64 | int64 | float64 => 8
  | reserved _ => 0

def bits (k : Kind) : Nat :=
  k.size * 8

/-- Whether the kind names a scalar type. -/
def isScalar (k : Kind) : Bool :=
  k.size != 0

/-- Whether the kind is a two's complement integer. -/
def isSigned : Kind → Bool
  | int8 | int16 | int32 | int64 => true
  | _ => false

/-- Whether the kind is an unsigned integer. -/
def isUnsigned : Kind → Bool
  | uint8 | uint16 | uint32 | uint64 => true
  | _ => false

/-- Whether the kind is a floating-point format. -/
def isFloat : Kind → Bool
  | float32 | float64 => true
  | _ => false

theorem ofNumber_number_of_scalar {k : Kind} (h : k ∈ scalars) : ofNumber k.number = k := by
  simp only [scalars, List.mem_cons, List.not_mem_nil, or_false] at h
  rcases h with rfl | rfl | rfl | rfl | rfl | rfl | rfl | rfl | rfl | rfl <;> rfl

end Kind

end RegisterMap
