import RegisterMap.Group.Wire

/-! # Register payloads in packets

A packet layer holds a group and the direction of the exchange. Serializing puts the bytes of the
group in front of what a buffer already holds; decoding fills the group from the front of the data
and leaves the bytes after it as the payload of the layer. A decoding that fails leaves the layer as
it was, and tells apart whether the data were too short. -/

namespace RegisterMap

/-- Why a layer could not be serialized or decoded. -/
inductive LayerError where
  | noGroup
  | bufferFull
  | group (error : GroupError)
  deriving DecidableEq, Repr

namespace LayerError

def message : LayerError → String
  | noGroup => "register layer has no schema, use NewDecoder"
  | bufferFull => "buffer full"
  | group e => e.message

/-- Whether the error is about data that are too short. -/
def isBufferCapacity : LayerError → Bool
  | group e => e.isBufferCapacity
  | _ => false

end LayerError

/-- A layer: the group, the direction that chooses the side of the exchange, and the bytes of the
    group and those after it from the last successful decoding. -/
structure Layer where
  group : Option Group
  direction : Direction
  contents : Bytes := []
  payload : Bytes := []
  deriving Repr

/-- What decoding leaves behind. -/
structure Decoding where
  layer : Layer
  /-- Whether the data were found to be too short. -/
  truncated : Bool := false
  failure : Option LayerError := none
  deriving Repr

namespace Layer

/-- A layer around a group. -/
def ofGroup (g : Group) (direction : Direction) : Layer :=
  { group := some g, direction }

/-- Puts the bytes of the group in front of a buffer. The direction is checked before the buffer
    grows; `room` is what it grows by for a number of bytes, and `full` tells that it cannot grow. -/
def prependInto (l : Layer) (room : Nat → Bytes) (buffer : Bytes) (full : Bool) :
    Bytes × Option LayerError :=
  match l.group with
  | none => (buffer, some .noGroup)
  | some g =>
    let op := Op.serialize l.direction.side
    if !g.header.direction.allows op then
      (buffer, some (.group (.directionMismatch g.header.name op)))
    else if full then
      (buffer, some .bufferFull)
    else
      let written := g.serialize l.direction.side (room g.size)
      (written.result ++ buffer, written.failure.map .group)

/-- Puts the bytes of the group in front of a buffer that grows by zeros. -/
def prepend (l : Layer) (buffer : Bytes) (full : Bool) : Bytes × Option LayerError :=
  l.prependInto (List.replicate · 0) buffer full

/-- The layer followed by payloads. The buffer is built from its end. -/
def serialize (l : Layer) (payloads : List Bytes) : Bytes × Option LayerError :=
  l.prepend payloads.flatten false

/-- Fills the group from the front of the data. -/
def decode (l : Layer) (data : Bytes) : Decoding :=
  match l.group with
  | none => ⟨l, false, some .noGroup⟩
  | some g =>
    let read := g.deserialize l.direction.side data
    match read.failure with
    | some e => ⟨{ l with group := some read.result }, e.isBufferCapacity, some (.group e)⟩
    | none =>
      ⟨{ l with group := some read.result, contents := data.take read.count,
                payload := data.drop read.count }, false, none⟩

/-- A packet of one register: a new layer of a group of it, decoded from the data. -/
def packet (g : Group) (direction : Direction) (data : Bytes) : Decoding :=
  (ofGroup g direction).decode data

end Layer

end RegisterMap
