import RegisterMap.Generated.Execution
import RegisterMap.Proofs.Group.Wire

/-! # Numbers and values

Structs hold numbers where groups hold values, and the generated methods code numbers by their
integer type, one at a time or as a slice. On the numbers of well-formed values this gives the
bytes of the values, and from these bytes the numbers back. -/

namespace RegisterMap

/-- The number a value stands for; that of a floating-point value is its pattern. -/
def Value.number (v : Value) : Int :=
  if v.kind.isSigned then Value.signedOfBits v.kind.bits v.bits else v.bits

/-- The numbers of a machine integer type. -/
def IntType.Represents (t : IntType) (i : Int) : Prop :=
  if t.signed then -2 ^ (t.size * 8 - 1) ≤ i ∧ i < 2 ^ (t.size * 8 - 1)
  else 0 ≤ i ∧ i < 2 ^ (t.size * 8)

namespace Generated

theorem coding_size {k : Kind} (scalar : k.isScalar = true) : (coding k).size = k.size := by
  cases k <;> first | rfl | cases scalar

theorem coding_signed (k : Kind) : (coding k).signed = k.isSigned := by
  cases k <;> rfl

theorem bits_eq {k : Kind} (scalar : k.isScalar = true) : (coding k).size * 8 = k.bits := by
  rw [coding_size scalar, Kind.bits]

theorem bits_pos {k : Kind} (scalar : k.isScalar = true) : 0 < k.bits := by
  cases k <;> first | decide | cases scalar

end Generated

open Generated (coding coding_size coding_signed bits_eq bits_pos)

/-! ## Single numbers -/

namespace Value

theorem WellFormed.number_emod {v : Value} (wellFormed : v.WellFormed) :
    v.number % 2 ^ v.kind.bits = v.bits := by
  unfold number
  split_ifs
  · exact signedOfBits_emod wellFormed
  · exact Int.emod_eq_of_lt (by positivity) (by exact_mod_cast wellFormed)

theorem IsOf.encode_number {v : Value} {k : Kind} (isOf : v.IsOf k) (scalar : k.isScalar = true) :
    (coding k).encode v.number = v.bytes := by
  obtain ⟨rfl, wellFormed⟩ := isOf
  have reduced := wellFormed.number_emod
  have modulus : ((Nat.pow 256 v.kind.size : Nat) : Int) = 2 ^ v.kind.bits := by
    rw [Nat.pow_eq, ← Kind.two_pow_bits]
    push_cast
    rfl
  rw [IntType.encode, coding_size scalar, modulus, reduced, Int.toNat_natCast, bytes]

theorem IsOf.decode_bytes {v : Value} {k : Kind} (isOf : v.IsOf k) (scalar : k.isScalar = true) :
    (coding k).decode v.bytes = v.number := by
  obtain ⟨rfl, wellFormed⟩ := isOf
  simp only [IntType.decode, wellFormed.decode_bytes, coding_signed, bits_eq scalar, number]

theorem IsOf.represents_number {v : Value} {k : Kind} (isOf : v.IsOf k)
    (scalar : k.isScalar = true) : (coding k).Represents v.number := by
  obtain ⟨rfl, wellFormed⟩ := isOf
  unfold IntType.Represents number
  rw [coding_signed, bits_eq scalar]
  split_ifs
  · exact signedOfBits_range (bits_pos scalar) wellFormed
  · exact ⟨by omega, by exact_mod_cast wellFormed⟩

/-- Every number of the type of a kind is the number of a value. -/
theorem exists_isOf_number {k : Kind} (scalar : k.isScalar = true) {i : Int}
    (represented : (coding k).Represents i) : ∃ v : Value, v.IsOf k ∧ v.number = i := by
  have modulus : (0 : Int) < 2 ^ k.bits := by positivity
  have pattern : ((i % 2 ^ k.bits).toNat : Int) = i % 2 ^ k.bits :=
    Int.toNat_of_nonneg (Int.emod_nonneg i modulus.ne')
  refine ⟨⟨k, (i % 2 ^ k.bits).toNat⟩, isOf_mk ?_, ?_⟩
  · rw [← Int.ofNat_lt, pattern]
    push_cast
    exact Int.emod_lt_of_pos i modulus
  · unfold IntType.Represents at represented
    rw [coding_signed, bits_eq scalar] at represented
    unfold number
    split_ifs at represented ⊢ with signed
    · exact signedOfBits_toNat_emod (bits_pos scalar) represented.1 represented.2
    · rw [pattern]
      exact Int.emod_eq_of_lt represented.1 represented.2

end Value

/-! ## Buffers -/

namespace IntType

variable {k : Kind} {buffer : Bytes}

theorem put_number (scalar : k.isScalar = true) {v : Value} (isOf : v.IsOf k)
    (enough : k.size ≤ buffer.length) :
    (coding k).put buffer v.number = .written v.bytes buffer := by
  rw [put, coding_size scalar, capacityError?_eq, if_neg (by omega), isOf.encode_number scalar,
    Transfer.written, v.length_bytes, isOf.kind]

theorem putEach_numbers (scalar : k.isScalar = true) {vs : List Value}
    (isOf : ∀ v ∈ vs, v.IsOf k) (enough : (vs.flatMap Value.bytes).length ≤ buffer.length) :
    (coding k).putEach buffer (vs.map Value.number) =
      .written (vs.flatMap Value.bytes) buffer := by
  induction vs generalizing buffer with
  | nil => simp [putEach, Transfer.written]
  | cons v vs ih =>
    obtain ⟨first, rest⟩ := List.forall_mem_cons.1 isOf
    simp only [List.flatMap_cons, List.length_append, v.length_bytes, first.kind] at enough
    have one : (coding k).put buffer v.number = .written v.bytes buffer :=
      put_number scalar first (by omega)
    have others : (coding k).putEach (buffer.drop v.bytes.length) (vs.map Value.number) =
        .written (vs.flatMap Value.bytes) (buffer.drop v.bytes.length) := by
      apply ih rest
      rw [List.length_drop, v.length_bytes, first.kind]
      omega
    rw [List.map_cons, putEach, one]
    simp only [Transfer.written, List.drop_left, List.take_left] at others ⊢
    simp only [others, List.flatMap_cons, List.length_append, List.append_assoc, List.drop_drop]

theorem putSlice_numbers (scalar : k.isScalar = true) {vs : List Value}
    (isOf : ∀ v ∈ vs, v.IsOf k) (enough : (vs.flatMap Value.bytes).length ≤ buffer.length) :
    (coding k).putSlice buffer (vs.map Value.number) =
      .written (vs.flatMap Value.bytes) buffer := by
  have length := length_flatMap_bytes fun v member => (isOf v member).kind
  rw [putSlice, coding_size scalar, List.length_map, capacityError?_eq, Nat.mul_comm,
    if_neg (by omega)]
  exact putEach_numbers scalar isOf enough

theorem get_number (scalar : k.isScalar = true) {v : Value} (isOf : v.IsOf k)
    (front : v.bytes <+: buffer) (old : Int) :
    (coding k).get buffer old = ⟨k.size, v.number, none⟩ := by
  have length : v.bytes.length = k.size := by rw [v.length_bytes, isOf.kind]
  have enough := front.length_le
  rw [get, coding_size scalar, capacityError?_eq, if_neg (by omega), ← length,
    ← List.prefix_iff_eq_take.1 front, isOf.decode_bytes scalar]

theorem getEach_numbers (scalar : k.isScalar = true) {vs : List Value}
    (isOf : ∀ v ∈ vs, v.IsOf k) (front : vs.flatMap Value.bytes <+: buffer) {olds : List Int}
    (length : olds.length = vs.length) :
    (coding k).getEach buffer olds =
      ⟨(vs.flatMap Value.bytes).length, vs.map Value.number, none⟩ := by
  induction vs generalizing buffer olds with
  | nil =>
    cases olds with
    | nil => rfl
    | cons old olds => cases length
  | cons v vs ih =>
    obtain ⟨first, rest⟩ := List.forall_mem_cons.1 isOf
    cases olds with
    | nil => cases length
    | cons old olds =>
      obtain ⟨after, rfl⟩ := front
      have width : v.bytes.length = k.size := by rw [v.length_bytes, first.kind]
      rw [getEach, get_number scalar first ⟨vs.flatMap Value.bytes ++ after, by simp⟩]
      -- What is left behind the first number starts with the bytes of the others.
      have left : ((v :: vs).flatMap Value.bytes ++ after).drop k.size =
          vs.flatMap Value.bytes ++ after := by
        rw [← width, List.flatMap_cons, List.append_assoc, List.drop_left]
      simp only [left, ih rest (List.prefix_append _ after) (Nat.succ.inj length)]
      rw [List.flatMap_cons, List.length_append, width, List.map_cons]

theorem getSlice_numbers (scalar : k.isScalar = true) {vs : List Value}
    (isOf : ∀ v ∈ vs, v.IsOf k) (front : vs.flatMap Value.bytes <+: buffer) {olds : List Int}
    (length : olds.length = vs.length) :
    (coding k).getSlice buffer olds =
      ⟨(vs.flatMap Value.bytes).length, vs.map Value.number, none⟩ := by
  have bytes := length_flatMap_bytes fun v member => (isOf v member).kind
  have enough := front.length_le
  rw [getSlice, coding_size scalar, length, capacityError?_eq, Nat.mul_comm, if_neg (by omega)]
  exact getEach_numbers scalar isOf front length

end IntType

end RegisterMap
