import RegisterMap.Kind
import RegisterMap.Numeral.Digits
import RegisterMap.Text.Quoted

/-! # Codec errors

The reasons why a scalar cannot be made, written or read. -/

namespace RegisterMap

/-- Why a scalar operation failed. -/
inductive CodecError where
  /-- The buffer is shorter than the data. Nothing was written. -/
  | bufferCapacity (need available : Nat)
  | unsupportedSize (size : Int)
  | unknownKind (name : String)
  /-- The number does not fit the kind. -/
  | valueRange (kind : Kind) (text : String)
  /-- The text is no number. -/
  | malformedValue (kind : Kind) (text : String)
  deriving DecidableEq, Repr

namespace CodecError

def message : CodecError → String
  | bufferCapacity need available =>
    s!"buffer too small: need {Numeral.decimal need} bytes, have {Numeral.decimal available}"
  | unsupportedSize size => s!"unsupported type size: {Numeral.signedDecimal size}"
  | unknownKind name => s!"unknown field type {Text.quoted name}"
  | valueRange kind text => s!"value {text} is out of range for {kind.name}"
  | malformedValue kind text => s!"invalid {kind.name} value {Text.quoted text}"

/-- Whether the error is about a buffer that is too short. -/
def isBufferCapacity : CodecError → Bool
  | bufferCapacity .. => true
  | _ => false

end CodecError

end RegisterMap
