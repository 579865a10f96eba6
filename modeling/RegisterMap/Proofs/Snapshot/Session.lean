import RegisterMap.Proofs.Group.WireFormat
import RegisterMap.Proofs.Snapshot.Database
import RegisterMap.Proofs.Snapshot.Record

/-! # Sessions with a store

A session is a finite sequence of calls on one store: opening it anew, closing it, saving groups of
registers, loading and listing. Beside the store it keeps a history that no call can see: the
devices that were opened and the saves that succeeded. `Mirrors` says that the contents of the store
are what the history tells: the buckets belong to the devices of the history, and a bucket holds the
encoded record of the latest save under each number. Every call keeps it (`Mirrors.step`), so it
holds after every session (`mirrors_run`). -/

namespace RegisterMap.Snapshot

/-! ## Calls -/

/-- A register of a validated device. The lengths of its name and of its payload are numbers of
    63 bits, as the lengths of all texts and byte strings in memory are. -/
structure Schema where
  definition : Device
  index : Nat
  register : Register
  valid : definition.validate = .ok ()
  own : definition.registers[index]? = some register
  name_lt : (Utf8.encode register.name).length < 2 ^ 63
  size_lt : definition.registerSize index < 2 ^ 63

def Schema.fresh (schema : Schema) : Group :=
  schema.definition.newGroup schema.index

/-- The number of bytes of the register. -/
def Schema.size (schema : Schema) : Nat :=
  schema.definition.registerSize schema.index

/-- The arguments of a save, and the time at which it is made. -/
structure SaveCall where
  device : String
  schema : Schema
  group : Group
  reachable : schema.definition.Reachable schema.index group
  direction : Direction
  now : Instant

/-- The record that a save has to store. -/
def SaveCall.record (c : SaveCall) : Record where
  register := c.schema.register.name
  id := c.schema.register.id
  direction := c.direction.side.direction
  payload := c.group.cells.bytes
  saved := c.now

/-- A call on the store. -/
inductive Step where
  | reopen (devices : List String)
  | close
  | save (call : SaveCall)
  | load (device : String) (schema : Schema)
  | list (device : String)

/-! ## Sessions -/

/-- A store and what was done with it. -/
structure Session where
  store : Store := {}
  /-- The devices that the store was opened with. -/
  opened : List String := []
  /-- The saves that succeeded with the records they returned, the latest one first. -/
  saves : List (SaveCall × Record) := []

namespace Session

def step (s : Session) : Step → Session
  | .reopen devices =>
    match s.store.reopen devices with
    | (store, .ok ()) => { s with store := store, opened := devices ++ s.opened }
    | (store, .error _) => { s with store := store }
  | .close => { s with store := s.store.close }
  | .save c =>
    match s.store.save c.device c.group c.direction c.now with
    | (store, .ok r) => { s with store := store, saves := (c, r) :: s.saves }
    | (store, .error _) => { s with store := store }
  -- Looking something up gives an answer and changes nothing.
  | .load _ _ => s
  | .list _ => s

/-- The session of a sequence of calls on a new database. -/
def run (steps : List Step) : Session :=
  steps.foldl step {}

/-- The latest save for a device under a register number, with the record it returned. -/
def latest? (s : Session) (device : String) (id : UInt8) : Option (SaveCall × Record) :=
  s.saves.find? fun e => e.1.device = device ∧ e.1.schema.register.id = id

/-- The device was opened or saved to. -/
def Knows (s : Session) (device : String) : Prop :=
  device ∈ s.opened ∨ ∃ e ∈ s.saves, e.1.device = device

instance (s : Session) (device : String) : Decidable (s.Knows device) :=
  inferInstanceAs (Decidable (_ ∨ _))

end Session

/-! ## What a save stores -/

theorem Schema.consistent (schema : Schema) : schema.definition.Consistent :=
  .of_validate schema.valid

theorem SaveCall.isOf (c : SaveCall) : c.group.IsOf c.schema.definition c.schema.register :=
  c.reachable.isOf c.schema.consistent c.schema.own

theorem SaveCall.length_payload (c : SaveCall) : c.record.payload.length = c.schema.size :=
  c.isOf.length_bytes c.schema.consistent c.schema.own

/-- A group is recorded exactly if its register takes part in the exchange. -/
theorem SaveCall.record?_eq (c : SaveCall) :
    record? c.group c.direction c.now =
      if c.schema.register.direction.includes c.direction.side = true then .ok c.record
      else .error (.group (.directionMismatch c.schema.register.name
        (.serialize c.direction.side))) := by
  have size : c.group.size = c.schema.definition.registerSize c.schema.index :=
    c.isOf.size_eq c.schema.consistent c.schema.own
  have length : c.group.cells.bytes.length = c.schema.definition.registerSize c.schema.index :=
    c.length_payload
  simp only [record?, c.isOf.serialize_eq c.schema.consistent c.schema.own, size,
    List.length_replicate, Nat.lt_irrefl, if_false]
  split_ifs
  · -- The buffer has the size of the group, so that nothing of it is left behind the payload.
    simp only [Transfer.written, length, List.drop_replicate, Nat.sub_self, List.replicate_zero,
      List.append_nil, c.isOf.header]
    rfl
  · rfl

theorem SaveCall.storable (c : SaveCall) (small : (Utf8.encode c.now.text).length < 2 ^ 64) :
    c.record.Storable where
  register := c.schema.name_lt.trans (by decide)
  direction := ⟨c.direction.side, rfl⟩
  payload := c.length_payload.trans_lt (c.schema.size_lt.trans (by decide))
  saved := small

theorem SaveCall.decode?_record (c : SaveCall) (dated : c.now.Dated) :
    Record.decode? c.record.encode = some c.record :=
  (c.storable (length_encode_text_lt dated)).decode?_of_dated dated

/-! ## What a save changes -/

/-- Whether the register of a save takes part in its exchange. -/
def SaveCall.included (c : SaveCall) : Bool :=
  c.schema.register.direction.includes c.direction.side

/-- A save on a store without plain keys either stores its record in the bucket of the device, or
    does nothing. -/
theorem Store.save_cases {s : Store} (free : s.contents.NoPlain) (c : SaveCall) :
    (s.isOpen = true ∧ c.included = true ∧
      ∃ after : Database,
        s.save c.device c.group c.direction c.now = (⟨after, true⟩, .ok c.record) ∧
        after.NoPlain ∧
        ∀ other, after.bucket? (bucketName other) =
          if other = c.device then
            some (((s.contents.bucket? (bucketName c.device)).getD {}).insert
              c.record.id c.record.encode)
          else s.contents.bucket? (bucketName other)) ∨
    (¬ (s.isOpen = true ∧ c.included = true) ∧
      ∃ e, s.save c.device c.group c.direction c.now = (s, .error e)) := by
  rw [Store.save, c.record?_eq]
  by_cases included : c.schema.register.direction.includes c.direction.side = true
  · rw [if_pos included]
    by_cases isOpen : s.isOpen = true
    · obtain ⟨after, stored, freeAfter, buckets⟩ := store_eq free c.device c.record
      refine .inl ⟨isOpen, included, after, ?_, freeAfter, buckets⟩
      simp only [Store.update, if_pos isOpen, stored, Except.map]
    · -- A group of the right side is serialized first, and only then the store is found closed.
      refine .inr ⟨fun both => isOpen both.1, .notOpen, ?_⟩
      simp only [Store.update, if_neg isOpen]
  · rw [if_neg included]
    exact .inr ⟨fun both => included both.2, _, rfl⟩

namespace Session

/-- The bucket of a device, empty if there is none. -/
def bucket (s : Session) (device : String) : Bucket :=
  (s.store.contents.bucket? (bucketName device)).getD {}

theorem latest?_cons {s t : Session} {c : SaveCall} {r : Record}
    (pushed : t.saves = (c, r) :: s.saves) (device : String) (id : UInt8) :
    t.latest? device id =
      if device = c.device ∧ id = c.schema.register.id then some (c, r)
      else s.latest? device id := by
  rw [latest?, pushed, List.find?_cons]
  by_cases both : device = c.device ∧ id = c.schema.register.id
  · rw [if_pos both]
    simp [both]
  · rw [if_neg both]
    have other : ¬ (c.device = device ∧ c.schema.register.id = id) := fun same =>
      both ⟨same.1.symm, same.2.symm⟩
    simp only [decide_eq_false other]
    rfl

/-- The contents of the store are what the history tells. -/
structure Mirrors (s : Session) : Prop where
  free : s.store.contents.NoPlain
  known : ∀ device,
    (s.store.contents.bucket? (bucketName device)).isSome = true ↔ s.Knows device
  ordered : ∀ device, (s.bucket device).Ordered
  latest : ∀ device id, (s.bucket device).get? id = (s.latest? device id).map (·.2.encode)
  records : ∀ e ∈ s.saves, e.1.included = true ∧ e.2 = e.1.record

theorem Mirrors.reopen {s : Session} (mirrors : s.Mirrors) (devices : List String) :
    (s.store.reopen devices).2 = .ok () ∧ (s.step (.reopen devices)).Mirrors := by
  obtain ⟨after, ready, free, buckets⟩ := prepare_eq mirrors.free devices
  have next : s.step (.reopen devices) =
      { s with store := ⟨after, true⟩, opened := devices ++ s.opened } := by
    simp only [step, Store.reopen, ready]
  -- A bucket that is made is empty, as if it had been there before.
  have same : ∀ device, (s.step (.reopen devices)).bucket device = s.bucket device := by
    intro device
    rw [next, bucket, buckets, bucket]
    split_ifs <;> rfl
  refine ⟨by rw [Store.reopen, ready], ?_⟩
  constructor
  · rw [next]
    exact free
  · intro device
    rw [next, buckets]
    have known := mirrors.known device
    simp only [Knows, List.mem_append] at known ⊢
    split_ifs with opened
    · simp [opened]
    · simp [opened, known]
  · intro device
    rw [same]
    exact mirrors.ordered device
  · intro device id
    rw [same, mirrors.latest, next]
    rfl
  · rw [next]
    exact mirrors.records

theorem Mirrors.close {s : Session} (mirrors : s.Mirrors) : (s.step .close).Mirrors :=
  ⟨mirrors.free, mirrors.known, mirrors.ordered, mirrors.latest, mirrors.records⟩

theorem Mirrors.save {s : Session} (mirrors : s.Mirrors) (c : SaveCall) :
    (s.step (.save c)).Mirrors := by
  obtain ⟨-, included, after, outcome, free, buckets⟩ | ⟨-, e, outcome⟩ :=
    Store.save_cases mirrors.free c
  · have next : s.step (.save c) =
        { s with store := ⟨after, true⟩, saves := (c, c.record) :: s.saves } := by
      simp only [step, outcome]
    -- A device without a bucket counts as one with an empty bucket, so that the entry goes into it
    -- either way.
    have changed : ∀ device, (s.step (.save c)).bucket device =
        if device = c.device then (s.bucket device).insert c.record.id c.record.encode
        else s.bucket device := by
      intro device
      rw [next, bucket, buckets, bucket]
      split_ifs with same
      · rw [same]
        rfl
      · rfl
    constructor
    · rw [next]
      exact free
    · intro device
      rw [next, buckets]
      have known := mirrors.known device
      simp only [Knows, List.mem_cons, exists_eq_or_imp] at known ⊢
      split_ifs with same
      · simp [same]
      · simp [known, Ne.symm same]
    · intro device
      rw [changed]
      split_ifs
      · exact (mirrors.ordered device).insert _ _
      · exact mirrors.ordered device
    · -- The new entry is found under its number, and everything else as before.
      intro device id
      have found := latest?_cons (congrArg saves next) device id
      rw [changed, found]
      by_cases same : device = c.device
      · rw [if_pos same, Bucket.get?_insert]
        by_cases number : id = c.record.id
        · rw [if_pos number, if_pos ⟨same, number⟩]
          rfl
        · rw [if_neg number, if_neg fun both => number both.2, mirrors.latest]
      · rw [if_neg same, if_neg fun both => same both.1, mirrors.latest]
    · rw [next]
      exact List.forall_mem_cons.2 ⟨⟨included, rfl⟩, mirrors.records⟩
  · have next : s.step (.save c) = s := by
      simp only [step, outcome]
    rwa [next]

/-- Every call keeps the contents and the history together. -/
theorem Mirrors.step {s : Session} (mirrors : s.Mirrors) (call : Step) : (s.step call).Mirrors := by
  cases call with
  | reopen devices => exact (mirrors.reopen devices).2
  | close => exact mirrors.close
  | save c => exact mirrors.save c
  | load device schema => exact mirrors
  | list device => exact mirrors

theorem latest?_eq_some {s : Session} {device : String} {id : UInt8} {c : SaveCall} {r : Record}
    (found : s.latest? device id = some (c, r)) :
    (c, r) ∈ s.saves ∧ c.device = device ∧ c.schema.register.id = id :=
  ⟨List.mem_of_find?_eq_some found, by simpa using List.find?_some found⟩

end Session

end RegisterMap.Snapshot
