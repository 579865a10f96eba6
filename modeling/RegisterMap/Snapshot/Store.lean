import RegisterMap.Group.Wire
import RegisterMap.Snapshot.Database
import RegisterMap.Snapshot.Record

/-! # The snapshot store

The store keeps the latest snapshot of each register of each device. A device has a bucket of its
own. Saving serializes a group and puts the record under the register's number; loading finds the
record by the number of a register and restores a group from it, if the record belongs to a register
of that name and has the right size.

Every operation takes the database and gives it back only if it succeeds, so that a failure leaves
the contents as they were. `Store` adds that a database has to be open: `Store.reopen` closes it first,
and leaves it closed if the bucket of a device cannot be made. -/

namespace RegisterMap.Snapshot

/-- Why an operation of the store failed. -/
inductive StoreError where
  | notOpen
  /-- A plain key stands where a bucket belongs. -/
  | incompatibleEntry
  | bucketNotFound (bucket : String)
  | recordNotFound (device : String) (id : UInt8)
  /-- The record found belongs to another register, or its payload has another size. -/
  | recordMismatch (id : UInt8) (stored want : String) (storedSize wantSize : Nat)
  /-- The stored bytes are no record. -/
  | malformedRecord
  | group (error : GroupError)
  deriving DecidableEq, Repr

def StoreError.message : StoreError → String
  | notOpen => "database not open"
  | incompatibleEntry => "incompatible value"
  | bucketNotFound bucket => s!"bucket not found: {bucket}"
  | recordNotFound device id =>
    s!"no snapshot of register {Numeral.decimal id.toNat} for device {device}"
  | recordMismatch id stored want storedSize wantSize =>
    if stored ≠ want then
      s!"snapshot of register {Numeral.decimal id.toNat} belongs to {stored}, not {want}"
    else
      s!"snapshot of register {Numeral.decimal id.toNat} has {Numeral.decimal storedSize} bytes, " ++
      s!"{want} takes {Numeral.decimal wantSize}"
  | malformedRecord => "malformed record"
  | group e => e.message

/-- The name of a device's bucket. -/
def bucketName (device : String) : String :=
  "dev_" ++ device

/-- Makes the buckets of the given devices, all of them or none. -/
def prepare (db : Database) : (devices : List String) → Except StoreError Database
  | [] => .ok db
  | device :: devices =>
    match db.withBucket? (bucketName device) with
    | none => .error .incompatibleEntry
    | some db => prepare db devices

/-- The record of a group that is serialized for an exchange in the given direction. -/
def record? (g : Group) (direction : Direction) (now : Instant) : Except StoreError Record :=
  let side := direction.side
  let written := g.serialize side (List.replicate g.size 0)
  match written.failure with
  | some e => .error (.group e)
  | none => .ok ⟨g.header.name, g.header.id, side.direction, written.result, now⟩

/-- Puts a record under its number into the bucket of the device. -/
def store (db : Database) (device : String) (r : Record) : Except StoreError Database :=
  match db.insert? (bucketName device) r.id r.encode with
  | none => .error .incompatibleEntry
  | some db => .ok db

def save (db : Database) (device : String) (g : Group) (direction : Direction) (now : Instant) :
    Except StoreError (Database × Record) :=
  match record? g direction now with
  | .error e => .error e
  | .ok r =>
    match store db device r with
    | .error e => .error e
    | .ok db => .ok (db, r)

/-- The stored record of a register number. -/
def find (db : Database) (device : String) (id : UInt8) : Except StoreError Record :=
  match db.bucket? (bucketName device) with
  | none => .error (.bucketNotFound (bucketName device))
  | some b =>
    match b.get? id with
    | none => .error (.recordNotFound device id)
    | some data =>
      match Record.decode? data with
      | none => .error .malformedRecord
      | some r => .ok r

/-- Fills a group from a record, if it is a record of the group's register. -/
def restore (g : Group) (r : Record) : Except StoreError Group :=
  if r.register ≠ g.header.name ∨ r.payload.length ≠ g.size then
    .error (.recordMismatch r.id r.register g.header.name r.payload.length g.size)
  else
    let read := g.deserialize r.direction.side r.payload
    match read.failure with
    | some e => .error (.group e)
    | none => .ok read.result

/-- The latest snapshot of a register, restored into a new group `fresh` of it. -/
def load (db : Database) (device : String) (fresh : Group) : Except StoreError (Group × Record) :=
  match find db device fresh.header.id with
  | .error e => .error e
  | .ok r =>
    match restore fresh r with
    | .error e => .error e
    | .ok g => .ok (g, r)

def decodeAll : List Bytes → Except StoreError (List Record)
  | [] => .ok []
  | data :: rest =>
    match Record.decode? data with
    | none => .error .malformedRecord
    | some r =>
      match decodeAll rest with
      | .error e => .error e
      | .ok rs => .ok (r :: rs)

/-- The records of a device in the order of the register numbers. -/
def list (db : Database) (device : String) : Except StoreError (List Record) :=
  match db.bucket? (bucketName device) with
  | none => .error (.bucketNotFound (bucketName device))
  | some b => decodeAll (b.entries.map (·.2))

/-- A database that is open or closed. -/
structure Store where
  contents : Database := {}
  isOpen : Bool := false
  deriving DecidableEq, Repr

namespace Store

/-- Closes the database. -/
def close (s : Store) : Store :=
  { s with isOpen := false }

/-- Opens the database with buckets for the given devices. -/
def reopen (s : Store) (devices : List String) : Store × Except StoreError Unit :=
  match prepare s.contents devices with
  | .error e => (s.close, .error e)
  | .ok db => (⟨db, true⟩, .ok ())

/-- Changes the contents, if the database is open and the change succeeds. -/
def update {α : Type} (s : Store) (change : Database → Except StoreError (Database × α)) :
    Store × Except StoreError α :=
  if s.isOpen then
    match change s.contents with
    | .error e => (s, .error e)
    | .ok (db, a) => (⟨db, true⟩, .ok a)
  else
    (s, .error .notOpen)

/-- Looks something up, if the database is open. -/
def query {α : Type} (s : Store) (look : Database → Except StoreError α) : Except StoreError α :=
  if s.isOpen then look s.contents else .error .notOpen

def save (s : Store) (device : String) (g : Group) (direction : Direction) (now : Instant) :
    Store × Except StoreError Record :=
  match record? g direction now with
  | .error e => (s, .error e)
  | .ok r => s.update fun db => (store db device r).map (·, r)

/-- The latest snapshot of a register, restored into a new group of it. -/
def load (s : Store) (device : String) (fresh : Group) : Except StoreError (Group × Record) :=
  s.query fun db => Snapshot.load db device fresh

def list (s : Store) (device : String) : Except StoreError (List Record) :=
  s.query fun db => Snapshot.list db device

end Store

end RegisterMap.Snapshot
