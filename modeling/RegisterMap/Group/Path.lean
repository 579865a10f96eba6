import RegisterMap.Group.Basic

/-! # Field paths

A path names one value of a group: a field, an array element such as `data[2]`, or a field of a
nested register such as `status.flags`. The part up to the first point or bracket is the name of a
field; the first field of that name decides what may follow. -/

namespace RegisterMap

namespace Path

/-- The field name at the start of a path, and what follows it. -/
def split (path : List Char) : List Char × List Char :=
  path.span fun c => c != '.' && c != '['

/-- The index between brackets, if that is all. -/
def index? : List Char → Option Int
  | '[' :: cs =>
    match cs.reverse with
    | ']' :: digits => Numeral.readIndex digits.reverse
    | _ => none
  | _ => none

/-- The element of a list at an index that may be out of range. -/
def element? (values : List Value) (index : Option Int) : Option Nat :=
  match index with
  | some i => if 0 ≤ i ∧ i < values.length then some i.toNat else none
  | none => none

end Path

namespace Cells

def get? : Cells → (path : List Char) → Option Value
  | nil, _ => none
  | scalar name _ value rest, path =>
    let (field, suffix) := Path.split path
    if field = name.toList then
      if suffix.isEmpty then some value else none
    else
      rest.get? path
  | array name _ values rest, path =>
    let (field, suffix) := Path.split path
    if field = name.toList then
      (Path.element? values (Path.index? suffix)).bind fun i => values[i]?
    else
      rest.get? path
  | nested name _ inner rest, path =>
    let (field, suffix) := Path.split path
    if field = name.toList then
      match suffix with
      | '.' :: path => inner.get? path
      | _ => none
    else
      rest.get? path

/-- Replaces the value at a path; the cells stay as they are if the path names none. -/
def set : Cells → (path : List Char) → Value → Cells
  | nil, _, _ => nil
  | scalar name kind value rest, path, v =>
    let (field, suffix) := Path.split path
    if field = name.toList then
      scalar name kind (if suffix.isEmpty then v else value) rest
    else
      scalar name kind value (rest.set path v)
  | array name kind values rest, path, v =>
    let (field, suffix) := Path.split path
    if field = name.toList then
      match Path.element? values (Path.index? suffix) with
      | some i => array name kind (values.set i v) rest
      | none => array name kind values rest
    else
      array name kind values (rest.set path v)
  | nested name header inner rest, path, v =>
    let (field, suffix) := Path.split path
    if field = name.toList then
      match suffix with
      | '.' :: path => nested name header (inner.set path v) rest
      | _ => nested name header inner rest
    else
      nested name header inner (rest.set path v)

end Cells

namespace Group

def get? (g : Group) (path : String) : Except GroupError Value :=
  match g.cells.get? path.toList with
  | some v => .ok v
  | none => .error (.unknownField g.header.name path)

/-- Replaces the value at a path by one that is made for the kind found there. -/
def setWith? (g : Group) (path : String) (make : Kind → Except CodecError Value) :
    Except GroupError Group :=
  match g.get? path with
  | .error e => .error e
  | .ok old =>
    match make old.kind with
    | .error e => .error (.codec e)
    | .ok v => .ok { g with cells := g.cells.set path.toList v }

/-- Assigns a value, which has to be of the kind found at the path. -/
def set? (g : Group) (path : String) (v : Value) : Except GroupError Group :=
  match g.get? path with
  | .error e => .error e
  | .ok old =>
    if v.kind = old.kind then .ok { g with cells := g.cells.set path.toList v }
    else .error (.kindMismatch path old.kind v.kind)

def setInt? (g : Group) (path : String) (i : Int) : Except GroupError Group :=
  g.setWith? path fun k => Value.ofInt? k i

def setNat? (g : Group) (path : String) (n : Nat) : Except GroupError Group :=
  g.setWith? path fun k => Value.ofNat? k n

/-- Assigns a double-precision number, given by its pattern. -/
def setDouble? (g : Group) (path : String) (bits : Nat) : Except GroupError Group :=
  g.setWith? path fun k => Value.ofDouble? k bits

/-- Assigns a value given by its text. -/
def setText? (g : Group) (path text : String) : Except GroupError Group :=
  g.setWith? path fun k => Value.parse? k text

end Group

end RegisterMap
