import RegisterMap.Codec
import RegisterMap.Device.Basic
import RegisterMap.Group.Error

/-! # Register groups

A group is an instance of a register: a tree of cells, one for each field in declaration order. A
cell holds a single value, the values of an array, or the cells of a nested register. The tree is
built once from the device's table (`Group.new?`), and every operation afterwards walks the cells.

A group remembers of its register what the wire operations need: name, number and direction. -/

namespace RegisterMap

/-- What a group knows about its register besides the fields. -/
structure Header where
  name : String
  id : UInt8
  direction : Direction
  deriving DecidableEq, Repr

/-- The cells of a register in field order. Each constructor holds the cell of one field and the
    cells after it. -/
inductive Cells where
  | nil
  | scalar (name : String) (kind : Kind) (value : Value) (rest : Cells)
  | array (name : String) (kind : Kind) (values : List Value) (rest : Cells)
  | nested (name : String) (header : Header) (inner : Cells) (rest : Cells)
  deriving DecidableEq, Repr

/-- An instance of a register. -/
structure Group where
  header : Header
  cells : Cells
  deriving DecidableEq, Repr

namespace Cells

/-- The number of bytes of the cells on the wire. -/
def size : Cells → Nat
  | nil => 0
  | scalar _ kind _ rest => kind.size + rest.size
  | array _ kind values rest => values.length * kind.size + rest.size
  | nested _ _ inner rest => inner.size + rest.size

/-- The path of an array element. -/
def elementPath (name : String) (index : Nat) : String :=
  name ++ "[" ++ Numeral.decimal index ++ "]"

/-- The path of a field of a nested register. -/
def innerPath (name path : String) : String :=
  name ++ "." ++ path

/-- The values in wire order with their paths: arrays element by element, nested registers field
    by field. -/
def values : Cells → List (String × Value)
  | nil => []
  | scalar name _ value rest => (name, value) :: rest.values
  | array name _ elements rest =>
    elements.zipIdx.map (fun e => (elementPath name e.2, e.1)) ++ rest.values
  | nested name _ inner rest =>
    inner.values.map (fun e => (innerPath name e.1, e.2)) ++ rest.values

/-- The cells of a list of fields, all zero. `inner` gives the header and the cells of a register
    of the table. -/
def zeros (inner : Nat → Header × Cells) : List Field → Cells
  | [] => nil
  | f :: fs =>
    match f.register with
    | some j => nested f.name (inner j).1 (inner j).2 (zeros inner fs)
    | none =>
      if f.count = 0 then
        scalar f.name f.kind (Value.zero f.kind) (zeros inner fs)
      else
        array f.name f.kind (List.replicate f.count.toNat (Value.zero f.kind)) (zeros inner fs)

end Cells

def Register.header (r : Register) : Header :=
  ⟨r.name, r.id, r.direction⟩

namespace Device

/-- Header and zero cells of the register at an index, with fields nested at most `fuel` deep. -/
def zerosWithin (d : Device) : (fuel : Nat) → (i : Nat) → Header × Cells
  | 0, i => (((d.table[i]?).map Register.header).getD ⟨"", 0, .readWrite⟩, .nil)
  | fuel + 1, i =>
    match d.table[i]? with
    | some r => (r.header, .zeros (d.zerosWithin fuel) r.fields)
    | none => (⟨"", 0, .readWrite⟩, .nil)

/-- A group of the register at an index, all zero. -/
def newGroup (d : Device) (i : Nat) : Group :=
  let (header, cells) := d.zerosWithin d.table.length i
  ⟨header, cells⟩

/-- A group of the register with the given name, all zero. -/
def newGroup? (d : Device) (name : String) : Option Group :=
  (d.find? name).map d.newGroup

end Device

namespace Group

/-- The number of bytes of the group on the wire. -/
def size (g : Group) : Nat :=
  g.cells.size

/-- The values in wire order with their paths. -/
def values (g : Group) : List (String × Value) :=
  g.cells.values

/-- The lines that show the values of the group. -/
def report (g : Group) : List String :=
  g.values.map fun e => e.1 ++ " = " ++ e.2.text

end Group

end RegisterMap
