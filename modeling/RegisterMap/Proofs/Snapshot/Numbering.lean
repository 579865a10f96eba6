import RegisterMap.Proofs.Group.WireFormat
import RegisterMap.Proofs.Snapshot.Database

/-! # Records and the numbers they are stored under

In a numbered database every record that can be read carries the number it is stored under. Opening
the database and storing records keep it numbered, and in a numbered database looking up a number
finds the listed record of that number (`find_eq_ok_iff`). -/

namespace RegisterMap.Snapshot

theorem mem_decodeAll_iff {stored : List Bytes} {records : List Record}
    (decoded : decodeAll stored = .ok records) (r : Record) :
    r ∈ records ↔ ∃ data ∈ stored, Record.decode? data = some r := by
  induction stored generalizing records with
  | nil =>
    cases decoded
    simp
  | cons data stored ih =>
    rw [decodeAll] at decoded
    cases first : Record.decode? data with
    | none => simp [first] at decoded
    | some s =>
      cases others : decodeAll stored with
      | error e => simp [first, others] at decoded
      | ok rest =>
        simp only [first, others, Except.ok.injEq] at decoded
        subst decoded
        simp [ih others, first, eq_comm]

/-- The entries are in order, and the records that can be read carry the numbers they are stored
    under. -/
structure Bucket.Numbered (b : Bucket) : Prop where
  ordered : b.Ordered
  ids : ∀ id data r, b.get? id = some data → Record.decode? data = some r → r.id = id

theorem Bucket.numbered_empty : Bucket.Numbered {} where
  ordered := Bucket.ordered_empty
  ids id data r held := by cases held

theorem Bucket.Numbered.insert {b : Bucket} (numbered : b.Numbered) {r : Record}
    (readable : ∀ s, Record.decode? r.encode = some s → s.id = r.id) :
    (b.insert r.id r.encode).Numbered where
  ordered := numbered.ordered.insert _ _
  ids id data s held decoded := by
    rw [Bucket.get?_insert] at held
    by_cases same : id = r.id
    · rw [if_pos same] at held
      cases held
      exact (readable s decoded).trans same.symm
    · rw [if_neg same] at held
      exact numbered.ids id data s held decoded

/-- A device without a bucket counts as one with an empty bucket. -/
structure Database.Numbered (db : Database) : Prop where
  free : db.NoPlain
  buckets : ∀ device, ((db.bucket? (bucketName device)).getD {}).Numbered

theorem Database.numbered_empty : Database.Numbered {} where
  free := Database.noPlain_empty
  buckets _ := Bucket.numbered_empty

theorem Database.Numbered.exists_prepare {db : Database} (numbered : db.Numbered)
    (device : String) :
    ∃ after, prepare db [device] = .ok after ∧ after.Numbered := by
  obtain ⟨after, ready, free, buckets⟩ := prepare_eq numbered.free [device]
  refine ⟨after, ready, free, ?_⟩
  intro other
  rw [buckets]
  by_cases opened : other ∈ [device]
  · rw [if_pos opened]
    exact numbered.buckets other
  · rw [if_neg opened]
    exact numbered.buckets other

theorem Database.Numbered.exists_store {db : Database} (numbered : db.Numbered) (device : String)
    {r : Record} (readable : ∀ s, Record.decode? r.encode = some s → s.id = r.id) :
    ∃ after, store db device r = .ok after ∧ after.Numbered := by
  obtain ⟨after, stored, free, buckets⟩ := store_eq numbered.free device r
  refine ⟨after, stored, free, ?_⟩
  intro other
  rw [buckets]
  by_cases same : other = device
  · rw [if_pos same]
    exact (numbered.buckets device).insert readable
  · rw [if_neg same]
    exact numbered.buckets other

/-- Looking up a number finds the listed record of that number. -/
theorem find_eq_ok_iff {db : Database} (numbered : db.Numbered) {device : String}
    {records : List Record} (listed : list db device = .ok records) {id : UInt8} {r : Record} :
    find db device id = .ok r ↔ r ∈ records ∧ r.id = id := by
  have buckets := numbered.buckets device
  unfold list at listed
  unfold find
  cases bucket : db.bucket? (bucketName device) with
  | none => simp [bucket] at listed
  | some b =>
    rw [bucket, Option.getD_some] at buckets
    simp only [bucket] at listed
    rw [mem_decodeAll_iff listed]
    constructor
    · intro found
      dsimp only at found
      cases held : b.get? id with
      | none => simp [held] at found
      | some data =>
        cases decoded : Record.decode? data with
        | none => simp [held, decoded] at found
        | some s =>
          simp only [held, decoded, Except.ok.injEq] at found
          subst found
          exact ⟨⟨data, List.mem_map_of_mem (buckets.ordered.mem_iff.2 held), decoded⟩,
            buckets.ids id data s held decoded⟩
    · rintro ⟨⟨data, member, decoded⟩, rfl⟩
      obtain ⟨⟨number, stored⟩, inside, rfl⟩ := List.mem_map.1 member
      have held := buckets.ordered.mem_iff.1 inside
      have number := buckets.ids _ _ _ held decoded
      subst number
      simp [held, decoded]

/-- A record restores a group, if it has the register's name and a payload that the register
    takes. -/
theorem restore_eq_ok_iff {d : Device} (consistent : d.Consistent) {i : Nat} {s : Register}
    (own : d.registers[i]? = some s) {r : Record} {g : Group} :
    restore (d.newGroup i) r = .ok g ↔
      s.name = r.register ∧ r.payload.length = d.registerSize i ∧
        (d.newGroup i).deserialize r.direction.side r.payload = ⟨d.registerSize i, g, none⟩ := by
  have fresh := consistent.isOf_newGroup own
  have size := fresh.size_eq consistent own
  have name := fresh.name_eq
  by_cases fits : r.register = s.name ∧ r.payload.length = d.registerSize i
  · simp only [restore, name, size, fits, ne_eq, not_true, or_self, if_false, true_and]
    cases failed : ((d.newGroup i).deserialize r.direction.side r.payload).failure with
    | some e =>
      simp only [reduceCtorEq, false_iff]
      intro read
      rw [read] at failed
      cases failed
    | none =>
      obtain ⟨-, -, held, read, -⟩ := fresh.exists_deserialize_eq failed
      simp [read, size]
  · have mismatch : r.register ≠ s.name ∨ r.payload.length ≠ d.registerSize i := by tauto
    simp only [restore, name, size, if_pos mismatch, reduceCtorEq, false_iff]
    rintro ⟨named, length, -⟩
    exact fits ⟨named.symm, length⟩

end RegisterMap.Snapshot
