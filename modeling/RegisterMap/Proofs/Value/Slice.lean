import RegisterMap.Proofs.Generated.Coding

/-! # Slices of integers

A slice is checked against the buffer once, and after that no element can fail: the elements are
written back to back, each at the offset where the one before it ended (`putsInTurn_numbers`). On
the bytes of a slice `getSlice` gives the elements back, and every buffer that is long enough starts
with the bytes of some slice, so writing also restores what was read. -/

namespace RegisterMap.IntType

open Generated (coding coding_size bits_eq)

/-- The bytes are a number of the type in two's complement, the highest digit first. -/
def Spells (t : IntType) (word : Bytes) (i : Int) : Prop :=
  word.length = t.size ∧
    ((Nat.ofDigits 256 (word.reverse.map UInt8.toNat) : Nat) : Int) = i % 2 ^ (t.size * 8)

/-- Successful calls of `put`, one for each number, at an offset that each call moves on by the
    number of bytes it accounts for. -/
inductive PutsInTurn (t : IntType) :
    (offset : Nat) → (buffer : Bytes) → List Int → (stop : Nat) → (after : Bytes) → Prop where
  | nil {offset : Nat} {buffer : Bytes} : PutsInTurn t offset buffer [] offset buffer
  | cons {offset n stop : Nat} {buffer part after : Bytes} {i : Int} {is : List Int} :
      t.put (buffer.drop offset) i = ⟨n, part, none⟩ →
      PutsInTurn t (offset + n) (buffer.take offset ++ part) is stop after →
      PutsInTurn t offset buffer (i :: is) stop after

/-- Every machine integer type is the one of a kind. -/
theorem exists_kind (t : IntType) : ∃ k : Kind, k.isScalar = true ∧ coding k = t := by
  obtain ⟨width, signed⟩ := t
  cases width <;> cases signed
  · exact ⟨.uint8, rfl, rfl⟩
  · exact ⟨.int8, rfl, rfl⟩
  · exact ⟨.uint16, rfl, rfl⟩
  · exact ⟨.int16, rfl, rfl⟩
  · exact ⟨.uint32, rfl, rfl⟩
  · exact ⟨.int32, rfl, rfl⟩
  · exact ⟨.uint64, rfl, rfl⟩
  · exact ⟨.int64, rfl, rfl⟩

section

variable {k : Kind} {vs : List Value}

theorem spells_bytes (scalar : k.isScalar = true) {v : Value} (isOf : v.IsOf k) :
    (coding k).Spells v.bytes v.number := by
  obtain ⟨rfl, wellFormed⟩ := isOf
  refine ⟨by rw [v.length_bytes, coding_size scalar], ?_⟩
  rw [BigEndian.ofDigits_reverse, wellFormed.decode_bytes, bits_eq scalar, wellFormed.number_emod]

theorem exists_values_of_represents (scalar : k.isScalar = true) {is : List Int}
    (represented : ∀ i ∈ is, (coding k).Represents i) :
    ∃ vs : List Value, (∀ v ∈ vs, v.IsOf k) ∧ vs.map Value.number = is := by
  induction is with
  | nil => exact ⟨[], by simp⟩
  | cons i is ih =>
    obtain ⟨first, rest⟩ := List.forall_mem_cons.1 represented
    obtain ⟨v, isOf, number⟩ := Value.exists_isOf_number scalar first
    obtain ⟨vs, isOfRest, numbers⟩ := ih rest
    exact ⟨v :: vs, List.forall_mem_cons.2 ⟨isOf, isOfRest⟩, by rw [List.map_cons, number, numbers]⟩

/-- With room for all numbers, every call in turn succeeds, and what stands in front of the offset
    is kept. -/
theorem putsInTurn_numbers (scalar : k.isScalar = true) (isOf : ∀ v ∈ vs, v.IsOf k)
    (front : Bytes) {buffer : Bytes} (enough : (vs.flatMap Value.bytes).length ≤ buffer.length) :
    (coding k).PutsInTurn front.length (front ++ buffer) (vs.map Value.number)
      (front.length + (vs.flatMap Value.bytes).length)
      (front ++ (vs.flatMap Value.bytes ++ buffer.drop (vs.flatMap Value.bytes).length)) := by
  induction vs generalizing front buffer with
  | nil => exact .nil
  | cons v vs ih =>
    obtain ⟨first, rest⟩ := List.forall_mem_cons.1 isOf
    have width : v.bytes.length = k.size := by rw [v.length_bytes, first.kind]
    rw [List.flatMap_cons, List.length_append] at enough
    have put : (coding k).put ((front ++ buffer).drop front.length) v.number =
        ⟨v.bytes.length, v.bytes ++ buffer.drop v.bytes.length, none⟩ := by
      rw [List.drop_left]
      exact put_number scalar first (by omega)
    refine .cons put ?_
    have room : (vs.flatMap Value.bytes).length ≤ (buffer.drop v.bytes.length).length := by
      rw [List.length_drop]
      omega
    -- The others are put behind the first one, which belongs to the front from now on.
    have others := ih rest (front ++ v.bytes) room
    rw [List.take_left, List.flatMap_cons, List.length_append, ← Nat.add_assoc]
    rwa [List.length_append, List.drop_drop, List.append_assoc, List.append_assoc,
      ← List.append_assoc v.bytes] at others

/-- A buffer that is long enough starts with the bytes of values. -/
theorem exists_values_prefix (scalar : k.isScalar = true) {count : Nat} {buffer : Bytes}
    (enough : count * k.size ≤ buffer.length) :
    ∃ vs : List Value, vs.length = count ∧ (∀ v ∈ vs, v.IsOf k) ∧
      vs.flatMap Value.bytes = buffer.take (count * k.size) := by
  obtain ⟨vs, -, -, length, isOf, bytes⟩ :=
    Cells.exists_getValues_eq (Cells.getValues_failure scalar enough)
  exact ⟨vs, length, isOf, bytes⟩

/-- Every slice of numbers of the type that fits is written back to back, as successive calls of
    `put` would do it, with nothing else touched, and is read back into any old numbers. What is
    read from a buffer that is long enough are numbers of the type, and writing them restores the
    bytes that were read. A buffer that is too short stays as it is, and so do the old numbers. -/
theorem slices_are_coded_whole (t : IntType) (is : List Int)
    (represented : ∀ i ∈ is, t.Represents i) (buffer : Bytes) :
    (t.size * is.length ≤ buffer.length →
      (∃ words : List Bytes, List.Forall₂ t.Spells words is ∧
        t.putSlice buffer is =
          ⟨t.size * is.length, words.flatten ++ buffer.drop (t.size * is.length), none⟩) ∧
      t.PutsInTurn 0 buffer is (t.size * is.length) (t.putSlice buffer is).result ∧
      ∀ olds : List Int, olds.length = is.length →
        t.getSlice (t.putSlice buffer is).result olds = ⟨t.size * is.length, is, none⟩ ∧
        ∃ read : List Int, t.getSlice buffer olds = ⟨t.size * is.length, read, none⟩ ∧
          read.length = is.length ∧ (∀ i ∈ read, t.Represents i) ∧
          ∀ room : Bytes, t.size * is.length ≤ room.length →
            t.putSlice room read = ⟨t.size * is.length,
              buffer.take (t.size * is.length) ++ room.drop (t.size * is.length), none⟩) ∧
    (buffer.length < t.size * is.length →
      t.putSlice buffer is =
        ⟨0, buffer, some (.bufferCapacity (t.size * is.length) buffer.length)⟩ ∧
      ∀ olds : List Int, olds.length = is.length →
        t.getSlice buffer olds =
          ⟨0, olds, some (.bufferCapacity (t.size * is.length) buffer.length)⟩) := by
  obtain ⟨k, scalar, rfl⟩ := t.exists_kind
  obtain ⟨vs, isOf, rfl⟩ := exists_values_of_represents scalar represented
  have length : (vs.flatMap Value.bytes).length = k.size * vs.length := by
    rw [length_flatMap_bytes fun v member => (isOf v member).kind, Nat.mul_comm]
  rw [coding_size scalar, List.length_map]
  refine ⟨fun enough => ?_, fun short => ?_⟩
  · have written : (coding k).putSlice buffer (vs.map Value.number) =
        ⟨k.size * vs.length, vs.flatMap Value.bytes ++ buffer.drop (k.size * vs.length), none⟩ := by
      rw [putSlice_numbers scalar isOf (by omega), Transfer.written, length]
    rw [written]
    refine ⟨⟨vs.map Value.bytes, ?_, by rw [List.flatMap_def]⟩, ?_, fun olds same => ⟨?_, ?_⟩⟩
    · rw [List.forall₂_map_left_iff, List.forall₂_map_right_iff, List.forall₂_same]
      exact fun v member => spells_bytes scalar (isOf v member)
    · have turns := putsInTurn_numbers scalar isOf [] (length.trans_le enough)
      rwa [length, List.length_nil, Nat.zero_add, List.nil_append] at turns
    · rw [getSlice_numbers scalar isOf (List.prefix_append _ _) same, length]
    · -- The front of the buffer is itself a slice of as many values.
      obtain ⟨ws, count, isOfRead, front⟩ :=
        exists_values_prefix scalar ((Nat.mul_comm _ _).trans_le enough)
      rw [Nat.mul_comm] at front
      have lengthRead : (ws.flatMap Value.bytes).length = k.size * vs.length := by
        rw [front, List.length_take_of_le enough]
      refine ⟨ws.map Value.number, ?_, by rw [List.length_map, count], ?_, fun room large => ?_⟩
      · rw [getSlice_numbers scalar isOfRead (front ▸ List.take_prefix _ _) (by omega), lengthRead]
      · rw [List.forall_mem_map]
        exact fun w member => (isOfRead w member).represents_number scalar
      · rw [putSlice_numbers scalar isOfRead (by omega), Transfer.written, lengthRead, front]
  · refine ⟨?_, fun olds same => ?_⟩
    · rw [putSlice, capacityError?_eq, coding_size scalar, List.length_map, if_pos short]
    · rw [getSlice, capacityError?_eq, coding_size scalar, same, if_pos short]

end

theorem int16_slice_coded_whole :
    (∀ i ∈ [1, -2], IntType.Represents ⟨.two, true⟩ i) ∧
      (∃ words : List Bytes, List.Forall₂ (IntType.Spells ⟨.two, true⟩) words [1, -2] ∧
        putSlice ⟨.two, true⟩ [9, 9, 9, 9, 7] [1, -2] = ⟨4, words.flatten ++ [7], none⟩) ∧
      getSlice ⟨.two, true⟩ [9, 9, 9] [5, 6] = ⟨0, [5, 6], some (.bufferCapacity 4 3)⟩ := by
  have represented : ∀ i ∈ [1, -2], IntType.Represents ⟨.two, true⟩ i := by
    simp [Represents, size, WordWidth.size]
  refine ⟨represented, ?_, ?_⟩
  · exact ((slices_are_coded_whole _ _ represented [9, 9, 9, 9, 7]).1 (by decide)).1
  · exact ((slices_are_coded_whole _ _ represented [9, 9, 9]).2 (by decide)).2 [5, 6] rfl

end RegisterMap.IntType
