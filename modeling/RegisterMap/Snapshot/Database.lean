import RegisterMap.Bytes.BigEndian

/-! # The snapshot database

A database maps names to buckets, and a bucket maps register numbers to stored records, in the order
of the numbers. A name may also be taken by a plain key instead of a bucket; then no bucket of that
name can be made. -/

namespace RegisterMap.Snapshot

/-- Stored records by register number. The entries are in increasing order of the numbers, which
    `insert` keeps. -/
structure Bucket where
  entries : List (UInt8 × Bytes) := []
  deriving DecidableEq, Repr

namespace Bucket

/-- Puts an entry in its place among entries in increasing order; an entry of the same number is
    replaced. -/
def insertInto (id : UInt8) (data : Bytes) : List (UInt8 × Bytes) → List (UInt8 × Bytes)
  | [] => [(id, data)]
  | e :: rest =>
    if id < e.1 then (id, data) :: e :: rest
    else if id = e.1 then (id, data) :: rest
    else e :: insertInto id data rest

/-- The bucket with the data of a register. -/
def insert (b : Bucket) (id : UInt8) (data : Bytes) : Bucket :=
  ⟨insertInto id data b.entries⟩

/-- The data of a register. -/
def get? (b : Bucket) (id : UInt8) : Option Bytes :=
  b.entries.lookup id

end Bucket

/-- What a name of the database stands for. -/
inductive Entry where
  | bucket (b : Bucket)
  | plain
  deriving DecidableEq, Repr

/-- The contents of a database. Of two entries with one name the first counts. -/
structure Database where
  entries : List (String × Entry) := []
  deriving DecidableEq, Repr

namespace Database

def entry? (db : Database) (name : String) : Option Entry :=
  db.entries.lookup name

/-- The database with an entry in place of the former one. -/
def put (db : Database) (name : String) (e : Entry) : Database :=
  ⟨(name, e) :: db.entries.filter fun other => other.1 != name⟩

def bucket? (db : Database) (name : String) : Option Bucket :=
  match db.entry? name with
  | some (.bucket b) => some b
  | _ => none

/-- The bucket of a name, which is empty if the name is free, and none if a plain key takes it. -/
def bucketFor? (db : Database) (name : String) : Option Bucket :=
  match db.entry? name with
  | some (.bucket b) => some b
  | some .plain => none
  | none => some {}

/-- The database with a bucket of the name, unless a plain key takes it. -/
def withBucket? (db : Database) (name : String) : Option Database :=
  (db.bucketFor? name).map fun b => db.put name (.bucket b)

/-- The database with the data of a register in the bucket of the name, unless a plain key takes
    it. -/
def insert? (db : Database) (name : String) (id : UInt8) (data : Bytes) : Option Database :=
  (db.bucketFor? name).map fun b => db.put name (.bucket (b.insert id data))

/-- The database with a plain key, unless there is a bucket of that name. -/
def putPlain? (db : Database) (name : String) : Option Database :=
  match db.entry? name with
  | some (.bucket _) => none
  | _ => some (db.put name .plain)

end Database

/-- The bytes that the file of a database begins with: the head of its first page and a mark. -/
def fileMark : Bytes :=
  List.replicate 8 0 ++ 4 :: List.replicate 7 0
    ++ "register snapshots\n".toList.map fun c => UInt8.ofNat c.toNat

end RegisterMap.Snapshot
