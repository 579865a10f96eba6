import RegisterMap.Cli.Error
import RegisterMap.Group.Path

/-! # Payloads on the command line

A payload is made of assignments `path=value` to the fields of a register, which start at zero, and
read from hexadecimal digits. Both take the register and the operation pair by name. -/

namespace RegisterMap.Cli

/-- A group of the register with the given name, all zero. -/
def groupOf (d : Device) (register : String) : Except CommandError Group :=
  match d.newGroup? register with
  | some g => .ok g
  | none => .error (.unknownRegister d.name register)

/-- The side that an operation option names. -/
def sideOf (op : String) : Except CommandError Side :=
  match parseSide? op with
  | some side => .ok side
  | none => .error (.wrongOperation op)

/-- The path and the value of an assignment; the first equals sign divides them. -/
def assignment? (text : String) : Option (String × String) :=
  match text.toList.dropWhile (· != '=') with
  | [] => none
  | _ :: value => some (String.ofList (text.toList.takeWhile (· != '=')), String.ofList value)

/-- Makes assignments one after the other. -/
def assign (g : Group) : (assignments : List String) → Except CommandError Group
  | [] => .ok g
  | text :: rest =>
    match assignment? text with
    | none => .error (.wrongAssignment text)
    | some (path, value) =>
      match g.setText? path value with
      | .error e => .error (.group e)
      | .ok g => assign g rest

/-- The payload of a register after assignments to its fields. -/
def encode (d : Device) (register op : String) (assignments : List String) :
    Except CommandError Bytes := do
  let g ← groupOf d register
  let side ← sideOf op
  let g ← assign g assignments
  match (Layer.ofGroup g side.direction).serialize [] with
  | (_, some e) => .error (.layer e)
  | (payload, none) => .ok payload

/-- A register with the values of a payload, and the bytes that are left over. -/
def decode (d : Device) (register op : String) (texts : List String) :
    Except CommandError (Group × Bytes) := do
  let g ← groupOf d register
  let side ← sideOf op
  match HexText.parse texts with
  | .error e => .error (.hex e)
  | .ok data =>
    let decoding := Layer.packet g side.direction data
    match decoding.failure, decoding.layer.group with
    | some e, _ => .error (.layer e)
    | none, none => .error (.layer .noGroup)
    | none, some g => .ok (g, decoding.layer.payload)

/-- A register with the values of a payload that has exactly its size. -/
def decodeExactly (d : Device) (register op : String) (texts : List String) :
    Except CommandError (Group × Side) := do
  let g ← groupOf d register
  let side ← sideOf op
  match HexText.parse texts with
  | .error e => .error (.hex e)
  | .ok data =>
    if data.length ≠ g.size then .error (.payloadSize g.header.name g.size data.length)
    else
      let read := g.deserialize side data
      match read.failure with
      | some e => .error (.group e)
      | none => .ok (read.result, side)

end RegisterMap.Cli
