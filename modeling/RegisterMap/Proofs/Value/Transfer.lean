import RegisterMap.Proofs.Value.WellFormed

/-! # Values to and from buffers

Writing a value and reading one are inverse to each other: what is written in front of anything is
read back as the same value (`get?_bytes_append`), and a value that was read is written as the bytes
it was read from (`put_of_get?`). Both look at the length of the buffer first. -/

namespace RegisterMap.Value

/-! ## Values that are handed out -/

theorem isScalar_of_floatFormat? {kind : Kind} {f : FloatFormat}
    (format : kind.floatFormat? = some f) : kind.isScalar = true := by
  cases kind <;> first | rfl | cases format

theorem isScalar_of_integer {kind : Kind}
    (integer : kind.isSigned = true ∨ kind.isUnsigned = true) : kind.isScalar = true := by
  cases kind <;> simp_all [Kind.isSigned, Kind.isUnsigned, Kind.isScalar, Kind.size]

theorem isScalar_of_ofDouble {kind : Kind} {pattern : Nat} {v : Value}
    (made : ofDouble? kind pattern = .ok v) : kind.isScalar = true := by
  unfold ofDouble? at made
  split at made
  · next f format => exact isScalar_of_floatFormat? format
  · cases made

theorem isScalar_of_ofInt {kind : Kind} {i : Int} {v : Value} (made : ofInt? kind i = .ok v) :
    kind.isScalar = true := by
  unfold ofInt? at made
  split_ifs at made with signed _ unsigned _ float
  · exact isScalar_of_integer (.inl signed)
  · exact isScalar_of_integer (.inr unsigned)
  · exact isScalar_of_ofDouble made

theorem isScalar_of_ofNat {kind : Kind} {n : Nat} {v : Value} (made : ofNat? kind n = .ok v) :
    kind.isScalar = true := by
  unfold ofNat? at made
  split_ifs at made with unsigned _ signed _ float
  · exact isScalar_of_integer (.inr unsigned)
  · exact isScalar_of_integer (.inl signed)
  · exact isScalar_of_ofDouble made

theorem isScalar_of_parse {kind : Kind} {text : String} {v : Value}
    (made : parse? kind text = .ok v) : kind.isScalar = true := by
  unfold parse? at made
  split_ifs at made with signed unsigned
  · exact isScalar_of_integer (.inl signed)
  · exact isScalar_of_integer (.inr unsigned)
  · split at made
    · next f format => exact isScalar_of_floatFormat? format
    · cases made

theorem isScalar_of_get? {kind : Kind} {buffer : Bytes} {v : Value} {n : Nat}
    (read : get? kind buffer = .ok (v, n)) : kind.isScalar = true := by
  unfold get? at read
  split_ifs at read with scalar
  exact scalar

/-- Only a zero can be of a kind without a width. -/
theorem FromCodec.scalar_or_zero {v : Value} (made : v.FromCodec) :
    v.kind.isScalar = true ∨ v = Value.zero v.kind := by
  cases made with
  | zero kind => exact .inr rfl
  | ofInt made => exact .inl ((isOf_ofInt made).kind ▸ isScalar_of_ofInt made)
  | ofNat made => exact .inl ((isOf_ofNat made).kind ▸ isScalar_of_ofNat made)
  | @ofDouble _ pattern _ made =>
    exact .inl ((isOf_ofDouble pattern.toNat_lt made).kind ▸ isScalar_of_ofDouble made)
  | parse made => exact .inl ((isOf_parse made).kind ▸ isScalar_of_parse made)
  | get read => exact .inl ((of_get? read).2.2.1.kind ▸ isScalar_of_get? read)

/-! ## Writing and reading -/

theorem put_of_short {v : Value} (scalar : v.kind.isScalar = true) {buffer : Bytes}
    (short : buffer.length < v.kind.size) :
    v.put buffer = ⟨0, buffer, some (.bufferCapacity v.kind.size buffer.length)⟩ := by
  rw [put, if_pos scalar, capacityError?_eq, if_pos short]

theorem get?_of_short {kind : Kind} (scalar : kind.isScalar = true) {buffer : Bytes}
    (short : buffer.length < kind.size) :
    get? kind buffer = .error (.bufferCapacity kind.size buffer.length) := by
  rw [get?, if_pos scalar, capacityError?_eq, if_pos short]

/-- A well-formed value is read back from its bytes, whatever stands behind them. -/
theorem get?_bytes_append {v : Value} (scalar : v.kind.isScalar = true)
    (wellFormed : v.WellFormed) (rest : Bytes) :
    get? v.kind (v.bytes ++ rest) = .ok (v, v.kind.size) := by
  have enough : v.kind.size ≤ (v.bytes ++ rest).length := by simp
  have front : (v.bytes ++ rest).take v.kind.size = v.bytes := by
    rw [← v.length_bytes, List.take_left]
  rw [get?_eq scalar enough, front, wellFormed.decode_bytes]

/-- A value that was read is written as the bytes that it was read from. -/
theorem put_of_get? {kind : Kind} {buffer : Bytes} {v : Value} {n : Nat}
    (read : get? kind buffer = .ok (v, n)) {room : Bytes} (enough : kind.size ≤ room.length) :
    v.put room = ⟨kind.size, buffer.take kind.size ++ room.drop kind.size, none⟩ := by
  obtain ⟨rfl, -, isOf, bytes⟩ := of_get? read
  have scalar := isScalar_of_get? read
  have outcome : v.put room = ⟨v.kind.size, v.bytes ++ room.drop v.kind.size, none⟩ :=
    put_eq (isOf.kind ▸ scalar) (isOf.kind ▸ enough)
  rw [outcome, bytes, isOf.kind]

/-- Every value that is handed out fits its kind; on values that do, writing and reading are inverse
    to each other, and both refuse a short buffer. A refused writing leaves the buffer as it is, and
    a refused reading gives neither a value nor a number of bytes. -/
theorem transfers_invert_each_other :
    (∀ v : Value, v.FromCodec →
      v.bits < 2 ^ (8 * v.kind.size) ∧ (v.kind.isScalar = true ∨ v = zero v.kind)) ∧
    (∀ (v : Value) (buffer : Bytes), v.kind.isScalar = true → v.bits < 2 ^ (8 * v.kind.size) →
      (v.kind.size ≤ buffer.length →
        ∃ bytes : Bytes, bytes.length = v.kind.size ∧
          Nat.ofDigits 256 (bytes.reverse.map UInt8.toNat) = v.bits ∧
          v.put buffer = ⟨v.kind.size, bytes ++ buffer.drop v.kind.size, none⟩ ∧
          get? v.kind (v.put buffer).result = .ok (v, v.kind.size)) ∧
      (buffer.length < v.kind.size →
        v.put buffer = ⟨0, buffer, some (.bufferCapacity v.kind.size buffer.length)⟩)) ∧
    (∀ (kind : Kind) (buffer : Bytes), kind.isScalar = true →
      (kind.size ≤ buffer.length →
        ∃ v : Value, get? kind buffer = .ok (v, kind.size) ∧ v.kind = kind ∧
          ∀ room : Bytes, kind.size ≤ room.length →
            v.put room = ⟨kind.size, buffer.take kind.size ++ room.drop kind.size, none⟩) ∧
      (buffer.length < kind.size →
        get? kind buffer = .error (.bufferCapacity kind.size buffer.length))) := by
  have width : ∀ kind : Kind, 2 ^ (8 * kind.size) = 2 ^ kind.bits := by
    intro kind
    rw [Kind.bits, Nat.mul_comm]
  refine ⟨?_, ?_, ?_⟩
  · intro v made
    rw [width]
    exact ⟨made.wellFormed, made.scalar_or_zero⟩
  · intro v buffer scalar small
    have wellFormed : v.WellFormed := by rwa [width] at small
    refine ⟨?_, put_of_short scalar⟩
    intro enough
    have outcome := put_eq scalar enough
    refine ⟨v.bytes, v.length_bytes, ?_, outcome, ?_⟩
    · rw [BigEndian.ofDigits_reverse]
      exact wellFormed.decode_bytes
    · rw [outcome]
      exact get?_bytes_append scalar wellFormed _
  · intro kind buffer scalar
    refine ⟨?_, get?_of_short scalar⟩
    intro enough
    have read := get?_eq scalar enough
    exact ⟨_, read, rfl, fun room => put_of_get? read⟩

theorem int16_transferred :
    (ofInt? .int16 (-2) = .ok ⟨.int16, 0xfffe⟩ ∧ 0xfffe < 2 ^ (8 * Kind.int16.size)) ∧
      get? .int16 ((⟨.int16, 0xfffe⟩ : Value).put [1, 2, 3]).result = .ok (⟨.int16, 0xfffe⟩, 2) ∧
      (⟨.int16, 0xfffe⟩ : Value).put [1] = ⟨0, [1], some (.bufferCapacity 2 1)⟩ ∧
      get? .float32 [0x7f, 0xa0] = .error (.bufferCapacity 4 2) := by
  obtain ⟨handedOut, written, read⟩ := transfers_invert_each_other
  have made : ofInt? .int16 (-2) = .ok ⟨.int16, 0xfffe⟩ := by decide
  have small := (handedOut _ (.ofInt (i := -2) made)).1
  refine ⟨⟨made, small⟩, ?_, ?_, ?_⟩
  · obtain ⟨-, -, -, -, back⟩ := (written ⟨.int16, 0xfffe⟩ [1, 2, 3] rfl small).1 (by decide)
    exact back
  · exact (written ⟨.int16, 0xfffe⟩ [1] rfl small).2 (by decide)
  · exact (read .float32 [0x7f, 0xa0] rfl).2 (by decide)

end RegisterMap.Value
