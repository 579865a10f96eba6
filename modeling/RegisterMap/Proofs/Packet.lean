import RegisterMap.Packet
import RegisterMap.Proofs.Group.WireFormat

/-! # Register payloads in packets

A layer decides about the direction before its buffer grows, and the group decides again. On groups
of a valid device the two agree, and nothing else can fail: a buffer is left alone or gets exactly
the bytes of the group in front. Decoding splits the data after these bytes, whatever follows. -/

namespace RegisterMap

namespace Group.IsOf

variable {d : Device} {i : Nat} {r : Register} {g : Group}

/-- The error of reading depends on the direction and the length of the data alone. -/
theorem deserialize_failure_eq (isOf : g.IsOf d r) (consistent : d.Consistent)
    (own : d.registers[i]? = some r) (side : Side) (data : Bytes) :
    (g.deserialize side data).failure =
      if r.direction.includes side = true then
        if data.length < d.registerSize i then
          some (.codec (.bufferCapacity (d.registerSize i) data.length))
        else none
      else some (.directionMismatch r.name (.deserialize side)) := by
  by_cases included : r.direction.includes side = true
  · rw [if_pos included]
    by_cases short : data.length < d.registerSize i
    · have size := isOf.size_eq consistent own
      rw [if_pos short, isOf.deserialize_of_short included (size ▸ short), size]
    · rw [if_neg short]
      exact (isOf.deserialize_failure_iff consistent own).2 ⟨included, Nat.not_lt.1 short⟩
  · rw [if_neg included, isOf.deserialize_of_excluded included]

end Group.IsOf

namespace Layer

variable {d : Device} {i : Nat} {r : Register} {g : Group} {l : Layer}

/-- A layer of a group leaves a buffer alone or puts the bytes of the group in front of it. What the
    buffer grew by is all overwritten. -/
theorem prependInto_eq (isOf : g.IsOf d r) (consistent : d.Consistent)
    (own : d.registers[i]? = some r) (holds : l.group = some g) {room : Nat → Bytes}
    (lengths : ∀ n, (room n).length = n) (p : Bytes) :
    l.prependInto room p false =
      if r.direction.includes l.direction.side = true then (g.cells.bytes ++ p, none)
      else (p, some (.group (.directionMismatch r.name (.serialize l.direction.side)))) := by
  have allows : r.header.direction.allows (.serialize l.direction.side) =
      r.direction.includes l.direction.side := rfl
  simp only [prependInto, holds, isOf.header, allows, isOf.size_eq consistent own,
    isOf.serialize_eq consistent own, lengths, lt_irrefl, if_false]
  by_cases included : r.direction.includes l.direction.side = true
  · have whole : (room (d.registerSize i)).drop g.cells.bytes.length = [] := by
      rw [isOf.length_bytes consistent own, List.drop_eq_nil_iff, lengths]
    simp [included, Transfer.written, whole]
  · simp [included, Register.header]

/-- Data that begin with the bytes of a group are split after them. -/
theorem decode_bytes_append (isOf : g.IsOf d r) (consistent : d.Consistent)
    (own : d.registers[i]? = some r) (holds : l.group = some g)
    (included : r.direction.includes l.direction.side = true) {h : Group} (holder : h.IsOf d r)
    (p : Bytes) :
    l.decode (h.cells.bytes ++ p) =
      ⟨{ l with group := some h, contents := h.cells.bytes, payload := p }, false, none⟩ := by
  have read := isOf.deserialize_eq consistent own included holder (List.prefix_append _ p)
  simp only [decode, holds, read, ← holder.length_bytes consistent own, List.take_left,
    List.drop_left]

theorem decode_failure (holds : l.group = some g) (data : Bytes) :
    (l.decode data).failure = (g.deserialize l.direction.side data).failure.map .group := by
  simp only [decode, holds]
  cases failed : (g.deserialize l.direction.side data).failure with
  | none => rfl
  | some e => rfl

/-- A decoding that fails leaves the layer as it was, and tells whether the data were too short. -/
theorem decode_of_failure (holds : l.group = some g) {data : Bytes} {e : LayerError}
    (failed : (l.decode data).failure = some e) :
    l.decode data = ⟨l, e.isBufferCapacity, some e⟩ := by
  rw [decode_failure holds] at failed
  obtain ⟨error, refused, rfl⟩ := Option.map_eq_some_iff.1 failed
  have kept := Group.deserialize_result_of_failure refused
  simp only [decode, holds, refused, kept, LayerError.isBufferCapacity]
  rw [← holds]

theorem truncated_of_success (holds : l.group = some g) {data : Bytes}
    (success : (l.decode data).failure = none) : (l.decode data).truncated = false := by
  rw [decode_failure holds, Option.map_eq_none_iff] at success
  simp only [decode, holds, success]

end Layer

/-- A layer writes the bytes of its group in front of any buffer, or refuses and leaves the buffer
    alone. Every layer of the register with the same direction splits these bytes off again. A
    decoding that fails changes nothing, and finds the packet truncated exactly if the register
    takes part and the data are shorter than it. -/
theorem layer_decodes_what_it_prepends {d : Device} (valid : d.validate = .ok ()) {i : Nat}
    {r : Register} (own : d.registers[i]? = some r) {g : Group} (reachable : d.Reachable i g)
    {l : Layer} (holds : l.group = some g) :
    (∀ (room : Nat → Bytes) (p : Bytes), (∀ n, (room n).length = n) →
      (r.direction.allows (.serialize l.direction.side) = false ∧
        l.prependInto room p false =
          (p, some (.group (.directionMismatch r.name (.serialize l.direction.side))))) ∨
      (r.direction.allows (.serialize l.direction.side) = true ∧
        ∃ w, l.prependInto room p false = (w ++ p, none) ∧ w.length = d.registerSize i ∧
          (∀ buffer, buffer.length = d.registerSize i →
            g.serialize l.direction.side buffer = ⟨d.registerSize i, w, none⟩) ∧
          ∀ (other : Layer) (held : Group), d.Reachable i held → other.group = some held →
            other.direction = l.direction →
            other.decode (w ++ p) =
              ⟨{ other with group := some g, contents := w, payload := p }, false, none⟩)) ∧
    (∀ data : Bytes,
      (∀ e, (l.decode data).failure = some e → (l.decode data).layer = l) ∧
      ((l.decode data).truncated = true ↔
        ∃ e, (l.decode data).failure = some e ∧ e.isBufferCapacity = true) ∧
      ((l.decode data).truncated = true ↔
        r.direction.allows (.deserialize l.direction.side) = true ∧
          data.length < d.registerSize i)) := by
  have consistent := Device.Consistent.of_validate valid
  have isOf := reachable.isOf consistent own
  have length := isOf.length_bytes consistent own
  constructor
  · intro room p lengths
    have outcome := Layer.prependInto_eq isOf consistent own holds lengths p
    by_cases included : r.direction.includes l.direction.side = true
    · rw [if_pos included] at outcome
      refine .inr ⟨included, g.cells.bytes, outcome, length, ?_, ?_⟩
      · intro buffer exactly
        rw [isOf.serialize_eq consistent own, if_pos included, if_neg (by omega),
          Transfer.written, length, List.drop_eq_nil_iff.2 exactly.le, List.append_nil]
      · intro other held reachableHeld otherHolds same
        have holder := reachableHeld.isOf consistent own
        exact Layer.decode_bytes_append holder consistent own otherHolds (same ▸ included) isOf p
    · rw [if_neg included] at outcome
      exact .inl ⟨Bool.eq_false_iff.2 included, outcome⟩
  · intro data
    have failure := Layer.decode_failure holds data
    rw [isOf.deserialize_failure_eq consistent own] at failure
    cases failed : (l.decode data).failure with
    | none =>
      have complete := Layer.truncated_of_success holds failed
      refine ⟨by simp, by simp [complete], ?_⟩
      rw [failed] at failure
      simp only [complete, Bool.false_eq_true, false_iff]
      rintro ⟨included, short⟩
      rw [if_pos (show r.direction.includes l.direction.side = true from included),
        if_pos short] at failure
      cases failure
    | some e =>
      rw [Layer.decode_of_failure holds failed]
      rw [failed] at failure
      refine ⟨fun _ _ => rfl, by simp, ?_⟩
      -- Of the two errors only the one about the length is a capacity error.
      split_ifs at failure with included short
      · cases failure
        exact iff_of_true rfl ⟨included, short⟩
      · cases failure
      · cases failure
        exact iff_of_false Bool.false_ne_true fun allowed => included allowed.1

theorem layer_of_probe :
    probe.validate = .ok () ∧
      (Layer.ofGroup ((probe.newGroup 1).run probeCalls) .writeOnly).decode
          ([0x12, 0x34, 0, 0, 0, 0xff, 0xfe] ++ [0xaa, 0xbb]) =
        ⟨{ group := some ((probe.newGroup 1).run probeCalls), direction := .writeOnly,
           contents := [0x12, 0x34, 0, 0, 0, 0xff, 0xfe], payload := [0xaa, 0xbb] }, false, none⟩ ∧
      (Layer.ofGroup ((probe.newGroup 1).run probeCalls) .readWrite).prependInto
          (List.replicate · 0xcc) [0xaa] false =
        ([0xaa], some (.group (.directionMismatch "frame" (.serialize .read)))) := by
  have valid : probe.validate = .ok () := rfl
  have layers := fun direction =>
    layer_decodes_what_it_prepends valid (i := 1) rfl ⟨probeCalls, rfl⟩
      (l := .ofGroup ((probe.newGroup 1).run probeCalls) direction) rfl
  refine ⟨valid, ?_, ?_⟩
  · obtain ⟨refused, -⟩ | ⟨-, w, -, -, written, decoded⟩ :=
      (layers .writeOnly).1 (List.replicate · 0) [0xaa, 0xbb] fun _ => List.length_replicate
    · cases refused
    · cases written (List.replicate 7 0) rfl
      exact decoded _ _ ⟨probeCalls, rfl⟩ rfl rfl
  · obtain ⟨-, refused⟩ | ⟨allowed, -⟩ :=
      (layers .readWrite).1 (List.replicate · 0xcc) [0xaa] fun _ => List.length_replicate
    · exact refused
    · cases allowed

end RegisterMap
