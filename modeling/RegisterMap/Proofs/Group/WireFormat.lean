import RegisterMap.Proofs.Group.Run

/-! # The wire format of registers

Serializing a group of a valid device has three outcomes. The register lacks the side, or the
buffer is too short, and then nothing is written; or the whole register is written, its values in
order and big-endian. There is no failure in between: what validation checks one level of nesting
at a time makes the checks of all nested registers pass.

Deserializing has the same three outcomes and is the inverse: the bytes of a register and its
groups determine each other. -/

namespace RegisterMap

/-! ## Serializing -/

/-- Serializing any group that a run reaches writes all values or nothing. -/
theorem serialize_writes_values_or_nothing {d : Device} (valid : d.validate = .ok ()) {i : Nat}
    {r : Register} (own : d.registers[i]? = some r) {g : Group} (reachable : d.Reachable i g)
    (side : Side) (buffer : Bytes) :
    (r.direction.allows (.serialize side) = false →
      g.serialize side buffer = ⟨0, buffer, some (.directionMismatch r.name (.serialize side))⟩) ∧
    (r.direction.allows (.serialize side) = true → buffer.length < d.registerSize i →
      g.serialize side buffer =
        ⟨0, buffer, some (.codec (.bufferCapacity (d.registerSize i) buffer.length))⟩) ∧
    (r.direction.allows (.serialize side) = true → d.registerSize i ≤ buffer.length →
      g.serialize side buffer =
        ⟨d.registerSize i,
          (g.values.flatMap fun e => e.2.bytes) ++ buffer.drop (d.registerSize i), none⟩) ∧
    (g.values.flatMap fun e => e.2.bytes).length = d.registerSize i ∧
    (∀ e ∈ g.values, e.2.bytes.length = e.2.kind.size ∧
      Nat.ofDigits 256 (e.2.bytes.reverse.map UInt8.toNat) = e.2.bits ∧
      (e.2.kind.isSigned = true →
        ∃ i, e.2.toInt? = some i ∧ (e.2.bits : Int) = i % 2 ^ e.2.kind.bits) ∧
      (e.2.kind.isUnsigned = true → e.2.toNat? = some e.2.bits)) ∧
    (∀ e, (g.serialize side buffer).failure = some e →
      (g.serialize side buffer).result = buffer ∧ (g.serialize side buffer).count = 0) ∧
    (r.direction = .readWrite → g.serialize .read buffer = g.serialize .write buffer) := by
  have consistent := Device.Consistent.of_validate valid
  have isOf := reachable.isOf consistent own
  have length : g.cells.bytes.length = d.registerSize i :=
    isOf.fits.length_bytes.trans (isOf.size_eq consistent own)
  -- The outcome depends on the direction and the length alone; the rest reads it off.
  have outcome := isOf.serialize_eq consistent own side buffer
  refine ⟨?_, ?_, ?_, length, ?_, ?_, ?_⟩
  · intro (excluded : r.direction.includes side = false)
    rw [outcome, if_neg (by simp [excluded])]
  · intro (included : r.direction.includes side = true) short
    rw [outcome, if_pos included, if_pos short]
  · intro (included : r.direction.includes side = true) enough
    rw [outcome, if_pos included, if_neg (Nat.not_lt.2 enough), Transfer.written, length]
    rfl
  · intro e member
    have wellFormed := isOf.fits.wellFormed_of_mem member
    refine ⟨e.2.length_bytes, ?_, wellFormed.exists_toInt?_eq, Value.toNat?_eq⟩
    rw [BigEndian.ofDigits_reverse]
    exact wellFormed.decode_bytes
  · intro e failed
    rw [outcome] at failed ⊢
    split_ifs at failed ⊢
    · exact ⟨rfl, rfl⟩
    · cases failed
    · exact ⟨rfl, rfl⟩
  · intro both
    rw [isOf.serialize_eq consistent own, isOf.serialize_eq consistent own, both]
    rfl

/-- A device with a register inside another one, whose outer register is written only. -/
def probe : Device where
  name := "probe"
  registers :=
    [{ name := "status", id := 1, direction := .readWrite,
       fields := [{ name := "flags", kind := .uint8 },
                  { name := "level", kind := .int16, count := 2 }] },
     { name := "frame", id := 2, direction := .writeOnly,
       fields := [{ name := "head", kind := .uint16 }, { name := "body", register := some 0 }] }]

/-- Assignments to both levels of nesting, and a reading that fails. -/
def probeCalls : List Call :=
  [.setText "head" "0x1234", .setInt "body.level[1]" (-2), .deserialize .write []]

theorem serialize_probe :
    probe.validate = .ok () ∧
      ((probe.newGroup 1).run probeCalls).serialize .write (List.replicate 9 0xaa) =
        ⟨7, [0x12, 0x34, 0, 0, 0, 0xff, 0xfe, 0xaa, 0xaa], none⟩ ∧
      ((probe.newGroup 1).run probeCalls).serialize .write [0xaa] =
        ⟨0, [0xaa], some (.codec (.bufferCapacity 7 1))⟩ ∧
      ((probe.newGroup 1).run probeCalls).serialize .read [] =
        ⟨0, [], some (.directionMismatch "frame" (.serialize .read))⟩ := by
  have valid : probe.validate = .ok () := rfl
  have outcomes := fun side buffer =>
    serialize_writes_values_or_nothing valid (i := 1) rfl ⟨probeCalls, rfl⟩ side buffer
  refine ⟨valid, ?_, ?_, ?_⟩
  · exact (outcomes .write _).2.2.1 rfl (by decide)
  · exact (outcomes .write _).2.1 rfl (by decide)
  · exact (outcomes .read _).1 rfl

/-! ## Deserializing -/

namespace Group.IsOf

variable {d : Device} {i : Nat} {r : Register} {g : Group}

/-- Reading a buffer that starts with the bytes of a group of the register gives that group,
    whatever the group was that reads them. -/
theorem deserialize_eq (isOf : g.IsOf d r) (consistent : d.Consistent)
    (own : d.registers[i]? = some r) {side : Side} (included : r.direction.includes side = true)
    {h : Group} (holder : h.IsOf d r) {buffer : Bytes} (front : h.cells.bytes <+: buffer) :
    g.deserialize side buffer = ⟨d.registerSize i, h, none⟩ := by
  have size : g.size = d.registerSize i := isOf.size_eq consistent own
  have length : h.cells.bytes.length = g.size := by
    rw [holder.fits.length_bytes, size]
    exact holder.size_eq consistent own
  have enough : g.size ≤ buffer.length := length ▸ front.length_le
  have success := isOf.deserialize_failure consistent (List.mem_of_getElem? own) included enough
  obtain ⟨-, -, read, outcome, isOfRead, bytes⟩ := isOf.exists_deserialize_eq success
  -- Both groups have the front of the buffer as their bytes.
  have cells : read.cells = h.cells := by
    apply isOfRead.fits.eq_of_bytes consistent holder.fits
    rw [bytes, List.prefix_iff_eq_take.1 front, length]
  have same : read = h := by
    cases read
    cases h
    cases cells
    cases isOfRead.header.trans holder.header.symm
    rfl
  rw [outcome, size, same]

theorem deserialize_failure_iff (isOf : g.IsOf d r) (consistent : d.Consistent)
    (own : d.registers[i]? = some r) {side : Side} {buffer : Bytes} :
    (g.deserialize side buffer).failure = none ↔
      r.direction.includes side = true ∧ d.registerSize i ≤ buffer.length := by
  rw [← isOf.size_eq consistent own]
  constructor
  · intro success
    obtain ⟨included, enough, -⟩ := isOf.exists_deserialize_eq success
    exact ⟨included, enough⟩
  · rintro ⟨included, enough⟩
    exact isOf.deserialize_failure consistent (List.mem_of_getElem? own) included enough

end Group.IsOf

/-- Reading inverts writing, in both orders, and changes all values or none. The last part is about
    all groups, also of devices that were never validated. -/
theorem deserialize_inverts_serialize :
    (∀ (d : Device) (i : Nat) (r : Register) (g : Group) (side : Side) (buffer : Bytes),
      d.validate = .ok () → d.registers[i]? = some r → d.Reachable i g →
      ((g.deserialize side buffer).failure = none ↔
        r.direction.allows (.deserialize side) = true ∧ d.registerSize i ≤ buffer.length) ∧
      ((g.deserialize side buffer).failure = none →
        (g.deserialize side buffer).count = d.registerSize i ∧
        (∀ out room, r.direction.allows (.serialize out) = true →
          d.registerSize i ≤ room.length →
          (g.deserialize side buffer).result.serialize out room =
            ⟨d.registerSize i,
              buffer.take (d.registerSize i) ++ room.drop (d.registerSize i), none⟩) ∧
        (∀ g' side' buffer', d.Reachable i g' →
          r.direction.allows (.deserialize side') = true → d.registerSize i ≤ buffer'.length →
          buffer'.take (d.registerSize i) = buffer.take (d.registerSize i) →
          g'.deserialize side' buffer' =
            ⟨d.registerSize i, (g.deserialize side buffer).result, none⟩) ∧
        (g.deserialize side buffer).result.deserialize side buffer = g.deserialize side buffer) ∧
      (∀ h out room after, d.Reachable i h → (h.serialize out room).failure = none →
        r.direction.allows (.deserialize side) = true →
        g.deserialize side ((h.serialize out room).result.take (d.registerSize i) ++ after) =
          ⟨d.registerSize i, h, none⟩)) ∧
    (∀ (g : Group) (side : Side) (buffer : Bytes) (e : GroupError),
      (g.deserialize side buffer).failure = some e →
      (g.deserialize side buffer).result = g) := by
  refine ⟨?_, fun g side buffer e failed => Group.deserialize_result_of_failure failed⟩
  intro d i r g side buffer valid own reachable
  have consistent := Device.Consistent.of_validate valid
  have isOf := reachable.isOf consistent own
  have size := isOf.size_eq consistent own
  refine ⟨isOf.deserialize_failure_iff consistent own, ?_, ?_⟩
  · -- The group that was read has the front of the buffer as its bytes.
    intro success
    obtain ⟨included, enough, read, outcome, isOfRead, bytes⟩ := isOf.exists_deserialize_eq success
    rw [size] at enough outcome bytes
    rw [outcome]
    refine ⟨rfl, ?_, ?_, ?_⟩
    · intro out room (allowed : r.direction.includes out = true) roomy
      rw [isOfRead.serialize_eq consistent own, if_pos allowed, if_neg (Nat.not_lt.2 roomy),
        Transfer.written, bytes, List.length_take_of_le enough]
    · -- Another group reads the same front, so it finds the bytes of this one.
      intro g' side' buffer' reachable' allowed' enough' front
      apply (reachable'.isOf consistent own).deserialize_eq consistent own allowed' isOfRead
      rw [bytes, ← front]
      exact List.take_prefix _ _
    · apply isOfRead.deserialize_eq consistent own included isOfRead
      rw [bytes]
      exact List.take_prefix _ _
  · intro h out room after reachableH written allowed
    have holder := reachableH.isOf consistent own
    apply isOf.deserialize_eq consistent own allowed holder
    have length : h.cells.bytes.length = d.registerSize i :=
      holder.fits.length_bytes.trans (holder.size_eq consistent own)
    rw [holder.serialize_eq consistent own] at written ⊢
    split_ifs at written ⊢ with included short
    rw [Transfer.written, ← length, List.take_left]
    exact List.prefix_append _ _

/-- The probe with an inner register that does not take part in writing; it is not valid. -/
def oneSided : Device :=
  { probe with registers := probe.registers.map fun r =>
      if r.name = "status" then { r with direction := .readOnly } else r }

theorem deserialize_probe :
    (probe.validate = .ok () ∧
      ((probe.newGroup 1).run probeCalls).deserialize .write
        ((((probe.newGroup 1).run [.setNat "body.flags" 7]).serialize .write
          (List.replicate 7 0xaa)).result.take 7 ++ [0xbb]) =
        ⟨7, (probe.newGroup 1).run [.setNat "body.flags" 7], none⟩) ∧
    (((oneSided.newGroup 1).run probeCalls).deserialize .write (List.replicate 9 0xaa)).failure =
        some (.directionMismatch "status" (.deserialize .write)) ∧
      (((oneSided.newGroup 1).run probeCalls).deserialize .write (List.replicate 9 0xaa)).result =
        (oneSided.newGroup 1).run probeCalls := by
  have valid : probe.validate = .ok () := rfl
  have midway : (((oneSided.newGroup 1).run probeCalls).deserialize .write
      (List.replicate 9 0xaa)).failure =
        some (.directionMismatch "status" (.deserialize .write)) := rfl
  obtain ⟨validated, always⟩ := deserialize_inverts_serialize
  refine ⟨⟨valid, ?_⟩, midway, always _ _ _ _ midway⟩
  exact (validated probe 1 _ _ .write [] valid rfl ⟨probeCalls, rfl⟩).2.2 _ .write _ [0xbb]
    ⟨[.setNat "body.flags" 7], rfl⟩ rfl rfl

end RegisterMap
