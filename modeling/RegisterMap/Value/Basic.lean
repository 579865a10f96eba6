import RegisterMap.Bytes.BigEndian
import RegisterMap.FloatFormat.Text
import RegisterMap.Numeral.Real
import RegisterMap.Value.Error

/-! # Scalar values

A value is a kind and a bit pattern of the kind's width: unsigned numbers as they are, signed ones
in two's complement, floating-point ones in their format. The constructors accept exactly what fits
the kind and keep the pattern below `2 ^ kind.bits`, which `Value.WellFormed` states. -/

namespace RegisterMap

/-- One scalar of a kind. -/
structure Value where
  kind : Kind
  bits : Nat
  deriving DecidableEq, Repr, Inhabited

/-- The floating-point format of a kind. -/
def Kind.floatFormat? : Kind → Option FloatFormat
  | .float32 => some .binary32
  | .float64 => some .binary64
  | _ => Option.none

namespace Value

/-- The pattern of a value fits the width of its kind. -/
def WellFormed (v : Value) : Prop :=
  v.bits < Nat.pow 2 v.kind.bits

instance (v : Value) : Decidable v.WellFormed :=
  inferInstanceAs (Decidable (_ < _))

/-! ## Making values -/

def zero (kind : Kind) : Value :=
  ⟨kind, 0⟩

/-- The value of a floating-point kind nearest to a double-precision number. A finite number above
    the largest one of the kind is out of range, also if it would round down to it. -/
def ofDouble? (kind : Kind) (bits : Nat) : Except CodecError Value :=
  match kind.floatFormat? with
  | some f =>
    match FloatFormat.binary64.decode bits with
    | .finite _ mantissa exponent =>
      if f.exceeds mantissa exponent then
        .error (.valueRange kind (FloatLayout.general.render .binary64 bits))
      else
        .ok ⟨kind, FloatFormat.binary64.convert f bits⟩
    | _ => .ok ⟨kind, FloatFormat.binary64.convert f bits⟩
  | none => .error (.valueRange kind (FloatLayout.general.render .binary64 bits))

/-- The value of an integer. An integer goes into a floating-point kind through double
    precision. -/
def ofInt? (kind : Kind) (i : Int) : Except CodecError Value :=
  if kind.isSigned then
    if -Nat.pow 2 (kind.bits - 1) ≤ i ∧ i < Nat.pow 2 (kind.bits - 1) then
      .ok ⟨kind, (i % Nat.pow 2 kind.bits).toNat⟩
    else
      .error (.valueRange kind (Numeral.signedDecimal i))
  else if kind.isUnsigned then
    if 0 ≤ i ∧ i < Nat.pow 2 kind.bits then
      .ok ⟨kind, i.toNat⟩
    else
      .error (.valueRange kind (Numeral.signedDecimal i))
  else if kind.isFloat then
    ofDouble? kind (FloatFormat.binary64.ofInt i)
  else
    .error (.unknownKind kind.name)

def ofNat? (kind : Kind) (n : Nat) : Except CodecError Value :=
  if kind.isUnsigned then
    if n < Nat.pow 2 kind.bits then .ok ⟨kind, n⟩ else .error (.valueRange kind (Numeral.decimal n))
  else if kind.isSigned then
    if n < Nat.pow 2 (kind.bits - 1) then .ok ⟨kind, n⟩
    else .error (.valueRange kind (Numeral.decimal n))
  else if kind.isFloat then
    ofDouble? kind (FloatFormat.binary64.ofInt n)
  else
    .error (.unknownKind kind.name)

/-- The error of a refused literal: out of range if it is a number that does not fit, and malformed
    in every other case. -/
def literalError (kind : Kind) (text : String) : Numeral.LiteralFault → CodecError
  | .outOfRange => .valueRange kind text
  | _ => .malformedValue kind text

/-- Reads a value of a kind. Integers are written as number literals, floating-point numbers are
    rounded once to the kind's own format. -/
def parse? (kind : Kind) (text : String) : Except CodecError Value :=
  if kind.isSigned then
    let reading := Numeral.readSigned text.toList kind.bits
    match reading.fault with
    | some fault => .error (literalError kind text fault)
    | none => ofInt? kind reading.value
  else if kind.isUnsigned then
    let reading := Numeral.readUnsigned text.toList kind.bits
    match reading.fault with
    | some fault => .error (literalError kind text fault)
    | none => ofNat? kind reading.value
  else
    match kind.floatFormat? with
    | some f =>
      match Numeral.readReal? text.toList with
      | none => .error (.malformedValue kind text)
      | some literal =>
        match literal.toBits? f with
        | none => .error (.valueRange kind text)
        | some bits => .ok ⟨kind, bits⟩
    | none => .error (.unknownKind kind.name)

/-! ## Reading values -/

/-- A pattern of `width` bits as a two's complement number. -/
def signedOfBits (width bits : Nat) : Int :=
  if Nat.pow 2 (width - 1) ≤ bits then (bits : Int) - Nat.pow 2 width else bits

/-- The value as a signed 64-bit number: sign-extended for a signed kind, the same pattern for an
    unsigned one, and without its fraction for a floating-point kind, if it then fits. -/
def toInt? (v : Value) : Option Int :=
  match v.kind.floatFormat? with
  | some f =>
    match f.truncate? v.bits with
    | some i => if -Nat.pow 2 63 ≤ i ∧ i < Nat.pow 2 63 then some i else none
    | none => none
  | none => some (signedOfBits (if v.kind.isSigned then v.kind.bits else 64) v.bits)

/-- The value as an unsigned 64-bit number: the pattern for an integer kind, and without its
    fraction for a floating-point kind, if it then fits. -/
def toNat? (v : Value) : Option Nat :=
  match v.kind.floatFormat? with
  | some f =>
    match f.truncate? v.bits with
    | some i => if 0 ≤ i ∧ i < Nat.pow 2 64 then some i.toNat else none
    | none => none
  | none => some v.bits

/-- The double-precision pattern nearest to the value. -/
def toDouble (v : Value) : Nat :=
  match v.kind.floatFormat? with
  | some f => f.convert .binary64 v.bits
  | none =>
    FloatFormat.binary64.ofInt (if v.kind.isSigned then signedOfBits v.kind.bits v.bits else v.bits)

/-- The value in words: a signed number in decimal, an unsigned one in decimal and hexadecimal, a
    floating-point number with its shortest digits. -/
def text (v : Value) : String :=
  if v.kind.isSigned then
    Numeral.signedDecimal (signedOfBits v.kind.bits v.bits)
  else if v.kind.isUnsigned then
    s!"{Numeral.decimal v.bits} (0x{Numeral.hexPadded (v.kind.size * 2) v.bits})"
  else
    match v.kind.floatFormat? with
    | some f => FloatLayout.general.render f v.bits
    | none => "<invalid>"

/-- The value on the wire: its pattern, most significant byte first. -/
def bytes (v : Value) : Bytes :=
  BigEndian.encode v.kind.size v.bits

end Value

end RegisterMap
