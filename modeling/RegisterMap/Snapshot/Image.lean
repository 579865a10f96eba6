import RegisterMap.Bytes.Utf8
import RegisterMap.Cbor.Item
import RegisterMap.Snapshot.Database

/-! # The database as a file

The file of a database begins with a mark, and holds a map from names to buckets after it. A bucket
is a map from register numbers to records, and a plain key has null in its place. -/

namespace RegisterMap.Snapshot

def Entry.encode : Entry → Bytes
  | plain => Cbor.writeNull
  | bucket b =>
    Cbor.writeHead 5 b.entries.length
      ++ b.entries.flatMap fun e => Cbor.writeUnsigned e.1.toNat ++ Cbor.writeBytes e.2

/-- The bytes of the file. -/
def Database.encode (db : Database) : Bytes :=
  fileMark ++ Cbor.writeHead 5 db.entries.length
    ++ db.entries.flatMap fun e => Cbor.writeText (Utf8.encode e.1) ++ e.2.encode

/-- A stored record with its register number. -/
def readRecord? : Cbor.Item × Cbor.Item → Option (UInt8 × Bytes)
  | (.unsigned id, .bytes data) => some (UInt8.ofNat id, data)
  | _ => none

def readEntry? : Cbor.Item × Cbor.Item → Option (String × Entry)
  | (.text name, .map records) => do
    return (← Utf8.decode? name, .bucket ⟨← records.mapM readRecord?⟩)
  | (.text name, _) => do return (← Utf8.decode? name, .plain)
  | _ => none

def Database.decode? (file : Bytes) : Option Database :=
  if file.take fileMark.length = fileMark then
    match Cbor.decode? (file.drop fileMark.length) with
    | some (.map entries) => (entries.mapM readEntry?).map Database.mk
    | _ => none
  else
    none

end RegisterMap.Snapshot
