import RegisterMap.Value.Basic

/-! # Writing to and reading from buffers

Integers of a fixed width and scalar values are written to the front of a buffer and read from it,
big-endian. An operation first checks that the buffer is long enough and touches nothing if it is
not; slices are checked as a whole, so they are written and read completely or not at all. -/

namespace RegisterMap

/-- The outcome of an operation on a buffer: the number of bytes it accounts for, the result, and
    the reason if it failed. The result of a failed operation is what it left behind. -/
structure Transfer (ε α : Type) where
  count : Nat
  result : α
  failure : Option ε := none
  deriving DecidableEq, Repr

/-- Checks that a buffer holds `size` bytes. If it does, only these are looked at. -/
def capacityError? (buffer : Bytes) (size : Nat) : Option CodecError :=
  if (buffer.take size).length < size then some (.bufferCapacity size buffer.length) else none

theorem capacityError?_eq (buffer : Bytes) (size : Nat) :
    capacityError? buffer size =
      if buffer.length < size then some (.bufferCapacity size buffer.length) else none := by
  have same : (buffer.take size).length < size ↔ buffer.length < size := by
    rw [List.length_take]
    omega
  simp only [capacityError?, same]

/-- The widths of machine words, in bytes. -/
inductive WordWidth where
  | one | two | four | eight
  deriving DecidableEq, Repr

/-- The number of bytes of a width. -/
def WordWidth.size : WordWidth → Nat
  | one => 1
  | two => 2
  | four => 4
  | eight => 8

/-- A machine integer type. -/
structure IntType where
  width : WordWidth
  signed : Bool
  deriving DecidableEq, Repr

namespace IntType

/-- The number of bytes of a type. -/
def size (t : IntType) : Nat :=
  t.width.size

/-- The bytes of a number of the type, in two's complement. -/
def encode (t : IntType) (i : Int) : Bytes :=
  BigEndian.encode t.size (i % Nat.pow 256 t.size).toNat

/-- The number of the type with the given bytes. -/
def decode (t : IntType) (bytes : Bytes) : Int :=
  let n := BigEndian.decode bytes
  if t.signed then Value.signedOfBits (t.size * 8) n else n

/-- Writes a number to the front of a buffer. -/
def put (t : IntType) (buffer : Bytes) (i : Int) : Transfer CodecError Bytes :=
  match capacityError? buffer t.size with
  | some e => ⟨0, buffer, some e⟩
  | none => ⟨t.size, t.encode i ++ buffer.drop t.size, none⟩

/-- Reads a number from the front of a buffer; `old` is kept on failure. -/
def get (t : IntType) (buffer : Bytes) (old : Int) : Transfer CodecError Int :=
  match capacityError? buffer t.size with
  | some e => ⟨0, old, some e⟩
  | none => ⟨t.size, t.decode (buffer.take t.size), none⟩

/-- Writes numbers one after the other. -/
def putEach (t : IntType) : Bytes → List Int → Transfer CodecError Bytes
  | buffer, [] => ⟨0, buffer, none⟩
  | buffer, i :: is =>
    let first := t.put buffer i
    match first.failure with
    | some e => ⟨0, first.result, some e⟩
    | none =>
      let rest := t.putEach (first.result.drop first.count) is
      ⟨first.count + rest.count, first.result.take first.count ++ rest.result, rest.failure⟩

/-- Reads numbers one after the other in place of the old ones. -/
def getEach (t : IntType) : Bytes → List Int → Transfer CodecError (List Int)
  | _, [] => ⟨0, [], none⟩
  | buffer, old :: olds =>
    let first := t.get buffer old
    match first.failure with
    | some e => ⟨0, old :: olds, some e⟩
    | none =>
      let rest := t.getEach (buffer.drop first.count) olds
      ⟨first.count + rest.count, first.result :: rest.result, rest.failure⟩

/-- Writes a list of numbers, provided that all of them fit. -/
def putSlice (t : IntType) (buffer : Bytes) (is : List Int) : Transfer CodecError Bytes :=
  match capacityError? buffer (t.size * is.length) with
  | some e => ⟨0, buffer, some e⟩
  | none => t.putEach buffer is

/-- Reads as many numbers as there are old ones, provided that the buffer holds all of them. -/
def getSlice (t : IntType) (buffer : Bytes) (olds : List Int) : Transfer CodecError (List Int) :=
  match capacityError? buffer (t.size * olds.length) with
  | some e => ⟨0, olds, some e⟩
  | none => t.getEach buffer olds

end IntType

def Kind.intType? : Kind → Option IntType
  | .uint8 => some ⟨.one, false⟩
  | .int8 => some ⟨.one, true⟩
  | .uint16 => some ⟨.two, false⟩
  | .int16 => some ⟨.two, true⟩
  | .uint32 => some ⟨.four, false⟩
  | .int32 => some ⟨.four, true⟩
  | .uint64 => some ⟨.eight, false⟩
  | .int64 => some ⟨.eight, true⟩
  | _ => Option.none

/-- The integer type that carries the patterns of a floating-point kind. -/
def Kind.patternType? : Kind → Option IntType
  | .float32 => some ⟨.four, false⟩
  | .float64 => some ⟨.eight, false⟩
  | _ => Option.none

namespace Value

/-- Writes a value to the front of a buffer. -/
def put (v : Value) (buffer : Bytes) : Transfer CodecError Bytes :=
  if v.kind.isScalar then
    match capacityError? buffer v.kind.size with
    | some e => ⟨0, buffer, some e⟩
    | none => ⟨v.kind.size, v.bytes ++ buffer.drop v.kind.size, none⟩
  else
    ⟨0, buffer, some (.unknownKind v.kind.name)⟩

/-- Reads a value of a kind from the front of a buffer, with its number of bytes. -/
def get? (kind : Kind) (buffer : Bytes) : Except CodecError (Value × Nat) :=
  if kind.isScalar then
    match capacityError? buffer kind.size with
    | some e => .error e
    | none => .ok (⟨kind, BigEndian.decode (buffer.take kind.size)⟩, kind.size)
  else
    .error (.unknownKind kind.name)

end Value

end RegisterMap
