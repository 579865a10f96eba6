import RegisterMap.Generated.Code
import RegisterMap.Group.Path
import RegisterMap.Group.Wire

/-! # Meaning of generated methods

A struct is a `Record`: its members in order, with the numbers they hold. `Package.call` runs a wire
method on a record and a buffer, statement by statement: the guard, then the steps at the running
offset, and at the end of a deserializing method the assignment of the filled copy. -/

namespace RegisterMap.Generated

/-- The contents of a struct. Integers are themselves, floating-point numbers their patterns. -/
inductive Record where
  | nil
  | word (name : String) (kind : Kind) (number : Int) (rest : Record)
  | words (name : String) (kind : Kind) (numbers : List Int) (rest : Record)
  | nested (name type : String) (inner : Record) (rest : Record)
  deriving DecidableEq, Repr

/-- The integer type in which numbers of a kind are coded. -/
def coding (k : Kind) : IntType :=
  match k.intType?, k.patternType? with
  | some t, _ => t
  | none, some t => t
  | none, none => ⟨.one, false⟩

namespace Record

/-! ## Members -/

/-- The number of a member. -/
def word? : Record → String → Option Int
  | nil, _ => none
  | word name _ i rest, n => if name = n then some i else rest.word? n
  | words name _ _ rest, n => if name = n then none else rest.word? n
  | nested name _ _ rest, n => if name = n then none else rest.word? n

/-- The numbers of an array member. -/
def words? : Record → String → Option (List Int)
  | nil, _ => none
  | word name _ _ rest, n => if name = n then none else rest.words? n
  | words name _ is rest, n => if name = n then some is else rest.words? n
  | nested name _ _ rest, n => if name = n then none else rest.words? n

/-- The record of a nested member. -/
def inner? : Record → String → Option Record
  | nil, _ => none
  | word name _ _ rest, n => if name = n then none else rest.inner? n
  | words name _ _ rest, n => if name = n then none else rest.inner? n
  | nested name _ inner rest, n => if name = n then some inner else rest.inner? n

/-- Assigns the number of a member. -/
def setWord (n : String) (i : Int) : Record → Record
  | nil => nil
  | word name k old rest => if name = n then word name k i rest else word name k old (rest.setWord n i)
  | words name k is rest => words name k is (rest.setWord n i)
  | nested name t inner rest => nested name t inner (rest.setWord n i)

/-- Assigns the numbers of an array member. -/
def setWords (n : String) (is : List Int) : Record → Record
  | nil => nil
  | word name k i rest => word name k i (rest.setWords n is)
  | words name k old rest =>
    if name = n then words name k is rest else words name k old (rest.setWords n is)
  | nested name t inner rest => nested name t inner (rest.setWords n is)

/-- Assigns the record of a nested member. -/
def setInner : Record → (name : String) → (value : Record) → Record
  | nil, _, _ => nil
  | word name k i rest, n, r => word name k i (rest.setInner n r)
  | words name k is rest, n, r => words name k is (rest.setInner n r)
  | nested name t inner rest, n, r =>
    if name = n then nested name t r rest else nested name t inner (rest.setInner n r)

/-! ## Views -/

/-- All numbers in order, with the Go expressions that name them. -/
def values : Record → List (String × Kind × Int)
  | nil => []
  | word name k i rest => (name, k, i) :: rest.values
  | words name k is rest =>
    is.zipIdx.map (fun e => (Cells.elementPath name e.2, k, e.1)) ++ rest.values
  | nested name _ inner rest =>
    inner.values.map (fun e => (Cells.innerPath name e.1, e.2)) ++ rest.values

/-- Assigns the number that an expression names. -/
def assign (path : List Char) (make : Kind → Int) : Record → Record
  | nil => nil
  | word name k i rest =>
    if path = name.toList then word name k (make k) rest
    else word name k i (rest.assign path make)
  | words name k is rest =>
    let (field, suffix) := Path.split path
    if field = name.toList then
      match Path.index? suffix with
      | some i => words name k (if 0 ≤ i then is.set i.toNat (make k) else is) rest
      | none => words name k is rest
    else
      words name k is (rest.assign path make)
  | nested name t inner rest =>
    let (field, suffix) := Path.split path
    if field = name.toList then
      nested name t (inner.assign (suffix.drop 1) make) rest
    else
      nested name t inner (rest.assign path make)

end Record

def numberText (k : Kind) (i : Int) : String :=
  match k.floatFormat? with
  | some f => FloatLayout.general.render f i.toNat
  | none => Numeral.signedDecimal i

/-! ## Execution -/

/-- What a method call leaves behind. -/
structure CallResult where
  count : Nat
  buffer : Bytes
  record : Record
  failure : Option GroupError := none
  deriving DecidableEq, Repr

/-- A step that writes. `call` runs the method of a nested type. -/
def Step.put (call : String → Record → Bytes → CallResult) (r : Record) (s : Step)
    (buffer : Bytes) : Transfer GroupError Bytes :=
  match s.shape with
  | .word k => one k
  | .float k => one k
  | .words k _ =>
    match r.words? s.member with
    | some is => ((coding k).putSlice buffer is).mapError .codec
    | none => ⟨0, buffer, none⟩
  | .floats k _ =>
    match r.words? s.member with
    | some is => ((coding k).putEach buffer is).mapError .codec
    | none => ⟨0, buffer, none⟩
  | .nested t =>
    match r.inner? s.member with
    | some inner =>
      let result := call t inner buffer
      Transfer.asPart ⟨result.count, result.buffer, result.failure⟩
    | none => ⟨0, buffer, none⟩
where
  one (k : Kind) : Transfer GroupError Bytes :=
    match r.word? s.member with
    | some i => ((coding k).put buffer i).mapError .codec
    | none => ⟨0, buffer, none⟩

/-- A step that reads into a record. -/
def Step.get (call : String → Record → Bytes → CallResult) (r : Record) (s : Step)
    (buffer : Bytes) : Transfer GroupError Record :=
  match s.shape with
  | .word k => one k
  | .float k => one k
  | .words k _ =>
    match r.words? s.member with
    | some is =>
      let read := (coding k).getSlice buffer is
      ⟨read.count, r.setWords s.member read.result, read.failure.map .codec⟩
    | none => ⟨0, r, none⟩
  | .floats k _ =>
    match r.words? s.member with
    | some is =>
      let read := (coding k).getEach buffer is
      ⟨read.count, r.setWords s.member read.result, read.failure.map .codec⟩
    | none => ⟨0, r, none⟩
  | .nested t =>
    match r.inner? s.member with
    | some inner =>
      let result := call t inner buffer
      Transfer.asPart ⟨result.count, r.setInner s.member result.record, result.failure⟩
    | none => ⟨0, r, none⟩
where
  one (k : Kind) : Transfer GroupError Record :=
    match r.word? s.member with
    | some i =>
      let read := (coding k).get buffer i
      ⟨read.count, r.setWord s.member read.result, read.failure.map .codec⟩
    | none => ⟨0, r, none⟩

/-- Runs writing steps at the running offset. -/
def putSteps (call : String → Record → Bytes → CallResult) (r : Record) :
    List Step → Bytes → Transfer GroupError Bytes
  | [], buffer => ⟨0, buffer, none⟩
  | s :: ss, buffer => (s.put call r buffer).andThen (putSteps call r ss)

/-- Runs reading steps at the running offset. -/
def getSteps (call : String → Record → Bytes → CallResult) :
    Record → List Step → Bytes → Transfer GroupError Record
  | r, [], _ => ⟨0, r, none⟩
  | r, s :: ss, buffer =>
    let first := s.get call r buffer
    match first.failure with
    | some e => ⟨first.count, first.result, some e⟩
    | none =>
      let rest := getSteps call first.result ss (buffer.drop first.count)
      ⟨first.count + rest.count, rest.result, rest.failure⟩

/-- Whether a buffer is shorter than a guard. -/
def guardError? (guard : Option Nat) (buffer : Bytes) : Option CodecError :=
  match guard with
  | some size => capacityError? buffer size
  | none => none

/-- Runs the body of a method. -/
def Body.run? (call : String → Record → Bytes → CallResult) (op : Op) (r : Record)
    (buffer : Bytes) : Body → CallResult
  | .reject register rejected => ⟨0, buffer, r, some (.directionMismatch register rejected)⟩
  | .run guard steps =>
    match guardError? guard buffer with
    | some e => ⟨0, buffer, r, some (.codec e)⟩
    | none =>
      match op with
      | .serialize _ =>
        let t := putSteps call r steps buffer
        ⟨t.count, t.result, r, t.failure⟩
      | _ =>
        let t := getSteps call r steps buffer
        match t.failure with
        | some e => ⟨t.count, buffer, r, some e⟩
        | none => ⟨t.count, buffer, t.result, none⟩

namespace Package

/-- Runs a method of a type, with calls nested at most `fuel` deep. -/
def callWithin (p : Package) (op : Op) :
    (fuel : Nat) → (type : String) → Record → Bytes → CallResult
  | 0, _, r, buffer => ⟨0, buffer, r, none⟩
  | fuel + 1, type, r, buffer =>
    match (p.type? type).bind fun t => t.method? op with
    | some m => m.body.run? (p.callWithin op fuel) op r buffer
    | none => ⟨0, buffer, r, none⟩

/-- Runs a method of a type. No type holds itself, so no call is deeper than there are types. -/
def call (p : Package) (type : String) (op : Op) (r : Record) (buffer : Bytes) : CallResult :=
  p.callWithin op p.types.length type r buffer

def zeroMembers (inner : String → Record) : List Member → Record
  | [] => .nil
  | m :: ms =>
    match m.shape with
    | .word k => .word m.name k 0 (zeroMembers inner ms)
    | .float k => .word m.name k 0 (zeroMembers inner ms)
    | .words k n => .words m.name k (List.replicate n 0) (zeroMembers inner ms)
    | .floats k n => .words m.name k (List.replicate n 0) (zeroMembers inner ms)
    | .nested t => .nested m.name t (inner t) (zeroMembers inner ms)

/-- The zero record of a type, nested at most `fuel` deep. -/
def zeroWithin (p : Package) : (fuel : Nat) → (type : String) → Record
  | 0, _ => .nil
  | fuel + 1, type =>
    match p.type? type with
    | some t => zeroMembers (p.zeroWithin fuel) t.members
    | none => .nil

def zero (p : Package) (type : String) : Record :=
  p.zeroWithin p.types.length type

end Package

end RegisterMap.Generated
