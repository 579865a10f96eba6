import RegisterMap.Group.Basic

/-! # Wire operations

The two sides of an exchange share one layout: every field in declaration order, big-endian. A
register first checks that its direction includes the side and that the buffer is long enough; a
nested register checks the same again for itself. Deserializing fills fresh cells and hands them
out only if all fields were read. -/

namespace RegisterMap

namespace Transfer

/-- Goes on with the part of the buffer that an operation left, unless it failed. -/
def andThen {ε : Type} (first : Transfer ε Bytes) (next : Bytes → Transfer ε Bytes) :
    Transfer ε Bytes :=
  match first.failure with
  | some _ => first
  | none =>
    let rest := next (first.result.drop first.count)
    ⟨first.count + rest.count, first.result.take first.count ++ rest.result, rest.failure⟩

/-- An operation on a part of a whole: if the part fails, the whole has accounted for nothing of
    it. -/
def asPart {ε α : Type} (t : Transfer ε α) : Transfer ε α :=
  match t.failure with
  | some _ => { t with count := 0 }
  | none => t

/-- The same outcome with another type of error. -/
def mapError {ε δ α : Type} (f : ε → δ) (t : Transfer ε α) : Transfer δ α :=
  ⟨t.count, t.result, t.failure.map f⟩

end Transfer

/-- Why a register refuses an operation before the buffer is touched. -/
def Header.refusal? (h : Header) (size : Nat) (op : Op) (buffer : Bytes) : Option GroupError :=
  if h.direction.allows op then (capacityError? buffer size).map .codec
  else some (.directionMismatch h.name op)

/-- Writes values one after the other. -/
def putValues : List Value → Bytes → Transfer GroupError Bytes
  | [], buffer => ⟨0, buffer, none⟩
  | v :: vs, buffer => ((v.put buffer).mapError .codec).andThen (putValues vs)

/-- Reads `count` values of a kind one after the other. -/
def getValues (kind : Kind) : (count : Nat) → Bytes → Transfer GroupError (List Value)
  | 0, _ => ⟨0, [], none⟩
  | count + 1, buffer =>
    match Value.get? kind buffer with
    | .error e => ⟨0, [], some (.codec e)⟩
    | .ok (v, n) =>
      let rest := getValues kind count (buffer.drop n)
      ⟨n + rest.count, v :: rest.result, rest.failure⟩

namespace Cells

/-- Writes the cells to the front of a buffer. -/
def put (side : Side) : Cells → Bytes → Transfer GroupError Bytes
  | nil, buffer => ⟨0, buffer, none⟩
  | scalar _ _ value rest, buffer => (putValues [value] buffer).andThen (rest.put side)
  | array _ _ values rest, buffer => (putValues values buffer).andThen (rest.put side)
  | nested _ header inner rest, buffer =>
    match header.refusal? inner.size (.serialize side) buffer with
    | some e => ⟨0, buffer, some e⟩
    | none => (inner.put side buffer).asPart.andThen (rest.put side)

/-- Reads the cells from the front of a buffer, into cells of the same shape. -/
def get (side : Side) : Cells → Bytes → Transfer GroupError Cells
  | nil, _ => ⟨0, nil, none⟩
  | scalar name kind value rest, buffer =>
    match Value.get? kind buffer with
    | .error e => ⟨0, scalar name kind value rest, some (.codec e)⟩
    | .ok (v, n) =>
      let after := rest.get side (buffer.drop n)
      ⟨n + after.count, scalar name kind v after.result, after.failure⟩
  | array name kind values rest, buffer =>
    let read := getValues kind values.length buffer
    match read.failure with
    | some e => ⟨read.count, array name kind values rest, some e⟩
    | none =>
      let after := rest.get side (buffer.drop read.count)
      ⟨read.count + after.count, array name kind read.result after.result, after.failure⟩
  | nested name header inner rest, buffer =>
    match header.refusal? inner.size (.deserialize side) buffer with
    | some e => ⟨0, nested name header inner rest, some e⟩
    | none =>
      let read := inner.get side buffer
      match read.failure with
      | some e => ⟨0, nested name header inner rest, some e⟩
      | none =>
        let after := rest.get side (buffer.drop read.count)
        ⟨read.count + after.count, nested name header read.result after.result, after.failure⟩

end Cells

namespace Group

/-- Why the group refuses an operation before the buffer is touched. -/
def refusal? (g : Group) (op : Op) (buffer : Bytes) : Option GroupError :=
  g.header.refusal? g.size op buffer

/-- Writes the group to the front of a buffer. -/
def serialize (g : Group) (side : Side) (buffer : Bytes) : Transfer GroupError Bytes :=
  match g.refusal? (.serialize side) buffer with
  | some e => ⟨0, buffer, some e⟩
  | none => g.cells.put side buffer

/-- Reads the group from the front of a buffer; on failure the group is as it was. -/
def deserialize (g : Group) (side : Side) (buffer : Bytes) : Transfer GroupError Group :=
  match g.refusal? (.deserialize side) buffer with
  | some e => ⟨0, g, some e⟩
  | none =>
    let read := g.cells.get side buffer
    match read.failure with
    | some e => ⟨read.count, g, some e⟩
    | none => ⟨read.count, { g with cells := read.result }, none⟩

end Group

end RegisterMap
