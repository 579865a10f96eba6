import RegisterMap.Device.Error

/-! # Errors of register operations -/

namespace RegisterMap

/-- Why an operation on a register group failed. -/
inductive GroupError where
  | codec (error : CodecError)
  /-- The register does not take part in this side of the exchange. Nothing was touched. -/
  | directionMismatch (register : String) (op : Op)
  | unknownField (register path : String)
  | kindMismatch (field : String) (want got : Kind)
  deriving DecidableEq, Repr

namespace GroupError

def message : GroupError → String
  | codec e => e.message
  | directionMismatch register op => s!"register {register} does not support {op.text}"
  | unknownField register path => s!"register {register} has no field {path}"
  | kindMismatch field want got => s!"field {field} is {want.name}, got {got.name}"

/-- Whether the error is about a buffer that is too short. -/
def isBufferCapacity : GroupError → Bool
  | codec e => e.isBufferCapacity
  | _ => false

/-- Whether the error is about a side the register lacks. -/
def isDirectionMismatch : GroupError → Bool
  | directionMismatch .. => true
  | _ => false

end GroupError

end RegisterMap
