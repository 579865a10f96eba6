import Mathlib.Tactic
import RegisterMap.Snapshot.Store

/-! # The laws of buckets and databases

A bucket is an ordered map: `insert` changes what `get?` finds for one number, and keeps the entries
in strictly increasing order. A database without plain keys takes every change, and a change of one
bucket leaves the others alone. -/

namespace RegisterMap.Snapshot

theorem lookup_cons {α β : Type} [BEq α] [LawfulBEq α] [DecidableEq α] (a : α) (e : α × β)
    (rest : List (α × β)) :
    (e :: rest).lookup a = if a = e.1 then some e.2 else rest.lookup a := by
  rw [List.lookup_cons]
  by_cases same : a = e.1
  · rw [beq_iff_eq.2 same, if_pos same]
  · rw [beq_eq_false_iff_ne.2 same, if_neg same]

/-! ## Buckets -/

namespace Bucket

/-- The entries are in strictly increasing order of their numbers. -/
def Ordered (b : Bucket) : Prop :=
  b.entries.Pairwise fun e e' => e.1 < e'.1

theorem ordered_empty : Ordered {} := List.Pairwise.nil

theorem lookup_insertInto (id other : UInt8) (data : Bytes) (entries : List (UInt8 × Bytes)) :
    (insertInto id data entries).lookup other =
      if other = id then some data else entries.lookup other := by
  fun_induction insertInto id data entries with
  | case1 => exact lookup_cons other (id, data) []
  | case2 e rest => exact lookup_cons other (id, data) (e :: rest)
  | case3 e rest _ same =>
    rw [lookup_cons, lookup_cons, ← same]
    split_ifs <;> rfl
  | case4 e rest _ different ih =>
    rw [lookup_cons, lookup_cons, ih]
    split_ifs with first new
    · exact absurd (new.symm.trans first) different
    all_goals rfl

theorem get?_insert (b : Bucket) (id other : UInt8) (data : Bytes) :
    (b.insert id data).get? other = if other = id then some data else b.get? other :=
  lookup_insertInto id other data b.entries

/-- Nothing but the number of the new entry is added. -/
theorem mem_insertInto {id : UInt8} {data : Bytes} {entries : List (UInt8 × Bytes)}
    {e : UInt8 × Bytes} (member : e ∈ insertInto id data entries) :
    e = (id, data) ∨ e ∈ entries := by
  fun_induction insertInto id data entries with
  | case1 => exact .inl (List.mem_singleton.1 member)
  | case2 e' rest before => exact List.mem_cons.1 member
  | case3 e' rest _ same =>
    rcases List.mem_cons.1 member with new | old
    · exact .inl new
    · exact .inr (List.mem_cons_of_mem _ old)
  | case4 e' rest _ _ ih =>
    rcases List.mem_cons.1 member with first | later
    · exact .inr (first ▸ List.mem_cons_self)
    · exact (ih later).imp_right (List.mem_cons_of_mem _)

theorem Ordered.insert {b : Bucket} (ordered : b.Ordered) (id : UInt8) (data : Bytes) :
    (b.insert id data).Ordered := by
  unfold Ordered Bucket.insert at *
  generalize b.entries = entries at *
  fun_induction insertInto id data entries with
  | case1 => exact List.pairwise_singleton _ _
  | case2 e rest before =>
    -- What is below the first entry is below all of them.
    obtain ⟨first, _⟩ := List.pairwise_cons.1 ordered
    refine List.pairwise_cons.2 ⟨?_, ordered⟩
    intro e' member
    rcases List.mem_cons.1 member with rfl | later
    · exact before
    · exact UInt8.lt_trans before (first e' later)
  | case3 e rest _ same =>
    obtain ⟨first, rest⟩ := List.pairwise_cons.1 ordered
    exact List.pairwise_cons.2 ⟨fun e' member => same ▸ first e' member, rest⟩
  | case4 e rest notBefore different ih =>
    obtain ⟨first, rest⟩ := List.pairwise_cons.1 ordered
    refine List.pairwise_cons.2 ⟨?_, ih rest⟩
    intro e' member
    rcases mem_insertInto member with rfl | later
    · exact UInt8.lt_of_le_of_ne (UInt8.not_lt.1 notBefore) (Ne.symm different)
    · exact first e' later

/-- In an ordered bucket every entry is found. -/
theorem Ordered.mem_iff {b : Bucket} (ordered : b.Ordered) {id : UInt8} {data : Bytes} :
    (id, data) ∈ b.entries ↔ b.get? id = some data := by
  unfold Ordered at ordered
  rw [get?]
  generalize b.entries = entries at *
  induction entries with
  | nil => simp
  | cons e rest ih =>
    obtain ⟨first, rest⟩ := List.pairwise_cons.1 ordered
    rw [List.mem_cons, lookup_cons, ih rest]
    split_ifs with same
    · -- No later entry has the number of the first one.
      rw [Option.some.injEq]
      constructor
      · rintro (rfl | later)
        · rfl
        · have beyond := first _ ((ih rest).2 later)
          rw [same] at beyond
          exact absurd beyond (UInt8.lt_irrefl _)
      · rintro rfl
        exact .inl (Prod.ext same rfl)
    · constructor
      · rintro (rfl | later)
        · exact absurd rfl same
        · exact later
      · exact .inr

end Bucket

/-! ## Databases -/

namespace Database

/-- Every name stands for a bucket. -/
def NoPlain (db : Database) : Prop :=
  ∀ name, db.entry? name ≠ some .plain

theorem noPlain_empty : NoPlain {} := by
  intro name entry
  cases entry

theorem entry?_put (db : Database) (name other : String) (e : Entry) :
    Database.entry? (db.put name e) other = if other = name then some e else db.entry? other := by
  have others : other ≠ name →
      (db.entries.filter fun e => e.1 != name).lookup other = db.entries.lookup other := by
    intro different
    induction db.entries with
    | nil => rfl
    | cons e rest ih =>
      rw [List.filter_cons]
      split_ifs with kept
      · rw [lookup_cons, lookup_cons, ih]
      · have same : e.1 = name := by simpa using kept
        rw [lookup_cons, if_neg (same ▸ different), ih]
  rw [Database.entry?, put, lookup_cons]
  split_ifs with same
  · rfl
  · exact others same

/-- A change of one bucket: the database stays free of plain keys, and the other buckets are as they
    were. -/
theorem noPlain_put {db : Database} (free : db.NoPlain) (name : String) (b : Bucket) :
    (db.put name (.bucket b)).NoPlain := by
  intro other
  rw [entry?_put]
  split
  · rintro ⟨⟩
  · exact free other

theorem bucket?_put (db : Database) (name other : String) (b : Bucket) :
    (db.put name (.bucket b)).bucket? other =
      if other = name then some b else db.bucket? other := by
  rw [bucket?, entry?_put]
  split_ifs <;> rfl

theorem NoPlain.bucketFor?_eq {db : Database} (free : db.NoPlain) (name : String) :
    db.bucketFor? name = some ((db.bucket? name).getD {}) := by
  have absent := free name
  unfold bucketFor? bucket?
  cases entry : db.entry? name with
  | none => rfl
  | some e =>
    cases e with
    | bucket b => rfl
    | plain => exact absurd entry absent

end Database

theorem bucketName_inj {device other : String} :
    bucketName device = bucketName other ↔ device = other := by
  simp [bucketName]

/-- Opening makes the missing buckets and keeps the others. -/
theorem prepare_eq {db : Database} (free : db.NoPlain) (devices : List String) :
    ∃ after, prepare db devices = .ok after ∧ after.NoPlain ∧
      ∀ device, after.bucket? (bucketName device) =
        if device ∈ devices then some ((db.bucket? (bucketName device)).getD {})
        else db.bucket? (bucketName device) := by
  induction devices generalizing db with
  | nil => exact ⟨db, rfl, free, fun device => by simp⟩
  | cons first devices ih =>
    have made : db.withBucket? (bucketName first) =
        some (db.put (bucketName first) (.bucket ((db.bucket? (bucketName first)).getD {}))) := by
      rw [Database.withBucket?, free.bucketFor?_eq, Option.map_some]
    obtain ⟨after, ready, freeAfter, buckets⟩ := ih (Database.noPlain_put free _ _)
    -- A device may be named twice; its bucket is then made by the first of them.
    refine ⟨after, ?_, freeAfter, fun device => ?_⟩
    · rw [prepare, made]
      exact ready
    · rw [buckets, Database.bucket?_put]
      simp only [bucketName_inj, List.mem_cons]
      by_cases same : device = first
      · subst same
        simp
      · simp [same]

/-- Storing a record changes one bucket, which is made if it is missing. -/
theorem store_eq {db : Database} (free : db.NoPlain) (device : String) (r : Record) :
    ∃ after, store db device r = .ok after ∧ after.NoPlain ∧
      ∀ other, after.bucket? (bucketName other) =
        if other = device then
          some (((db.bucket? (bucketName device)).getD {}).insert r.id r.encode)
        else db.bucket? (bucketName other) := by
  have made : db.insert? (bucketName device) r.id r.encode =
      some (db.put (bucketName device)
        (.bucket (((db.bucket? (bucketName device)).getD {}).insert r.id r.encode))) := by
    rw [Database.insert?, free.bucketFor?_eq, Option.map_some]
  generalize ((db.bucket? (bucketName device)).getD {}).insert r.id r.encode = changed at *
  refine ⟨db.put (bucketName device) (.bucket changed), ?_, Database.noPlain_put free _ _, ?_⟩
  · rw [store, made]
  · intro other
    rw [Database.bucket?_put]
    simp only [bucketName_inj]

end RegisterMap.Snapshot
