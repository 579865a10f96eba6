import RegisterMap.Codec
import RegisterMap.Proofs.Bytes.BigEndian
import RegisterMap.Proofs.FloatFormat.Pattern
import RegisterMap.Proofs.Value.TwosComplement

/-! # Every value fits its kind

A value that the constructors, the text reader or the decoder return has the kind that was asked
for and a pattern below `2 ^ kind.bits` (`Value.IsOf`). For floating-point kinds this rests on the
layout of the formats. -/

namespace RegisterMap

/-! ## Values of a kind -/

theorem Kind.two_pow_bits (k : Kind) : 2 ^ k.bits = 256 ^ k.size := by
  rw [Kind.bits, Nat.mul_comm, pow_mul]
  rfl

theorem Kind.bits_of_floatFormat {k : Kind} {f : FloatFormat} (format : k.floatFormat? = some f) :
    k.bits = f.width ∧ 0 < f.fractionBits := by
  cases k <;> simp only [floatFormat?, Option.some.injEq, reduceCtorEq] at format
  all_goals
    subst format
    decide

namespace Value

/-- A well-formed value of the given kind. -/
structure IsOf (v : Value) (kind : Kind) : Prop where
  kind : v.kind = kind
  wellFormed : v.WellFormed

theorem isOf_mk {kind : Kind} {bits : Nat} (small : bits < 2 ^ kind.bits) :
    (⟨kind, bits⟩ : Value).IsOf kind :=
  ⟨rfl, small⟩

theorem isOf_zero (kind : Kind) : (zero kind).IsOf kind :=
  isOf_mk (by positivity)

theorem isOf_ofDouble {kind : Kind} {pattern : Nat} {v : Value} (small : pattern < 2 ^ 64)
    (made : ofDouble? kind pattern = .ok v) : v.IsOf kind := by
  have converted : ∀ f, kind.floatFormat? = some f →
      (⟨kind, FloatFormat.binary64.convert f pattern⟩ : Value).IsOf kind := by
    intro f format
    obtain ⟨width, fractional⟩ := Kind.bits_of_floatFormat format
    apply isOf_mk
    rw [width]
    exact FloatFormat.convert_lt .binary64 f fractional small
  unfold ofDouble? at made
  split at made
  · next f format =>
    split at made
    · split at made
      · cases made
      · cases made
        exact converted f format
    · cases made
      exact converted f format
  · cases made

theorem isOf_ofInt {kind : Kind} {i : Int} {v : Value} (made : ofInt? kind i = .ok v) :
    v.IsOf kind := by
  simp only [ofInt?, Nat.pow_eq, Nat.cast_pow, Nat.cast_ofNat] at made
  split_ifs at made with signed inRange unsigned inRange float
  · cases made
    apply isOf_mk
    have positive : (0 : Int) < 2 ^ kind.bits := by positivity
    have low := Int.emod_nonneg i positive.ne'
    have high := Int.emod_lt_of_pos i positive
    zify
    omega
  · cases made
    apply isOf_mk
    zify
    omega
  · exact isOf_ofDouble (FloatFormat.ofInt_lt .binary64 i) made

theorem isOf_ofNat {kind : Kind} {n : Nat} {v : Value} (made : ofNat? kind n = .ok v) :
    v.IsOf kind := by
  unfold ofNat? at made
  split_ifs at made with unsigned inRange signed inRange float
  · cases made
    exact isOf_mk inRange
  · cases made
    exact isOf_mk (inRange.trans_le (Nat.pow_le_pow_right (by omega) (by omega)))
  · exact isOf_ofDouble (FloatFormat.ofInt_lt .binary64 n) made

/-- A literal never gives a pattern beyond the format. -/
theorem toBits_lt (f : FloatFormat) (fractional : 0 < f.fractionBits)
    (literal : Numeral.RealLiteral) {bits : Nat} (pattern : literal.toBits? f = some bits) :
    bits < 2 ^ f.width := by
  have finite : ∀ negative magnitude, magnitude < f.signBit →
      Numeral.RealLiteral.toBits?.finite f negative magnitude = some bits → bits < 2 ^ f.width := by
    intro negative magnitude small found
    unfold Numeral.RealLiteral.toBits?.finite at found
    split at found
    · cases found
    · cases found
      exact f.signed_lt _ small
  cases literal with
  | nan =>
    cases pattern
    exact FloatFormat.convert_lt .binary64 f fractional (by decide)
  | infinite negative =>
    cases pattern
    exact f.signed_lt _ f.infinity_lt
  | decimal negative mantissa exponent => exact finite _ _ (f.round_lt _ _) pattern
  | binary negative mantissa exponent => exact finite _ _ (f.round_lt _ _) pattern

theorem isOf_parse {kind : Kind} {text : String} {v : Value} (made : parse? kind text = .ok v) :
    v.IsOf kind := by
  unfold parse? at made
  split_ifs at made with signed unsigned
  · dsimp only at made
    split at made
    · cases made
    · exact isOf_ofInt made
  · dsimp only at made
    split at made
    · cases made
    · exact isOf_ofNat made
  · split at made
    · next f format =>
      split at made
      · cases made
      · next literal read =>
        split at made
        · cases made
        · next bits pattern =>
          cases made
          apply isOf_mk
          obtain ⟨width, fractional⟩ := Kind.bits_of_floatFormat format
          rw [width]
          exact toBits_lt f fractional literal pattern
    · cases made

/-! ## Values on the wire -/

/-- A value that the functions of this library hand out: a zero, a converted number, a text that
    was read, or a value from a buffer. The numbers are machine words. -/
inductive FromCodec : Value → Prop where
  | zero (kind : Kind) : FromCodec (zero kind)
  | ofInt {kind : Kind} {i : Int64} {v : Value} : ofInt? kind i.toInt = .ok v → FromCodec v
  | ofNat {kind : Kind} {n : UInt64} {v : Value} : ofNat? kind n.toNat = .ok v → FromCodec v
  | ofDouble {kind : Kind} {pattern : UInt64} {v : Value} :
      ofDouble? kind pattern.toNat = .ok v → FromCodec v
  | parse {kind : Kind} {text : String} {v : Value} : parse? kind text = .ok v → FromCodec v
  | get {kind : Kind} {buffer : Bytes} {v : Value} {n : Nat} :
      get? kind buffer = .ok (v, n) → FromCodec v

@[simp] theorem length_bytes (v : Value) : v.bytes.length = v.kind.size :=
  BigEndian.length_encode _ _

theorem put_eq {v : Value} (scalar : v.kind.isScalar = true) {buffer : Bytes}
    (enough : v.kind.size ≤ buffer.length) :
    v.put buffer = ⟨v.kind.size, v.bytes ++ buffer.drop v.kind.size, none⟩ := by
  rw [put, if_pos scalar, capacityError?_eq, if_neg (by omega)]

theorem get?_eq {kind : Kind} (scalar : kind.isScalar = true) {buffer : Bytes}
    (enough : kind.size ≤ buffer.length) :
    get? kind buffer = .ok (⟨kind, BigEndian.decode (buffer.take kind.size)⟩, kind.size) := by
  rw [get?, if_pos scalar, capacityError?_eq, if_neg (by omega)]

/-- A value that was read fits its kind and is spelled by the bytes it was read from. -/
theorem of_get? {kind : Kind} {buffer : Bytes} {v : Value} {n : Nat}
    (read : get? kind buffer = .ok (v, n)) :
    n = kind.size ∧ n ≤ buffer.length ∧ v.IsOf kind ∧ v.bytes = buffer.take n := by
  unfold get? at read
  split_ifs at read with scalar
  rw [capacityError?_eq] at read
  split_ifs at read with short
  cases read
  have enough : kind.size ≤ buffer.length := Nat.not_lt.1 short
  have length : (buffer.take kind.size).length = kind.size := List.length_take_of_le enough
  refine ⟨rfl, enough, isOf_mk ?_, ?_⟩
  · have small := BigEndian.decode_lt (buffer.take kind.size)
    rwa [length, ← Kind.two_pow_bits] at small
  · have digits := BigEndian.encode_decode (buffer.take kind.size)
    rwa [length] at digits

theorem FromCodec.wellFormed {v : Value} (made : v.FromCodec) : v.WellFormed := by
  cases made with
  | zero kind => exact (isOf_zero kind).wellFormed
  | ofInt made => exact (isOf_ofInt made).wellFormed
  | ofNat made => exact (isOf_ofNat made).wellFormed
  | @ofDouble _ pattern _ made => exact (isOf_ofDouble pattern.toNat_lt made).wellFormed
  | parse made => exact (isOf_parse made).wellFormed
  | get read => exact (of_get? read).2.2.1.wellFormed

/-- The bytes of a well-formed value are the digits of its pattern, lowest digit last. -/
theorem WellFormed.decode_bytes {v : Value} (wellFormed : v.WellFormed) :
    BigEndian.decode v.bytes = v.bits := by
  rw [bytes, BigEndian.decode_encode, ← Kind.two_pow_bits]
  exact Nat.mod_eq_of_lt wellFormed

theorem floatFormat?_of_integer {kind : Kind}
    (integer : kind.isSigned = true ∨ kind.isUnsigned = true) : kind.floatFormat? = none := by
  cases kind <;> simp_all [Kind.isSigned, Kind.isUnsigned, Kind.floatFormat?]

/-- The pattern of a signed value is its number in two's complement. -/
theorem WellFormed.exists_toInt?_eq {v : Value} (wellFormed : v.WellFormed)
    (signed : v.kind.isSigned = true) :
    ∃ i, v.toInt? = some i ∧ (v.bits : Int) = i % 2 ^ v.kind.bits := by
  refine ⟨signedOfBits v.kind.bits v.bits, ?_, ?_⟩
  · rw [toInt?, floatFormat?_of_integer (.inl signed), if_pos signed]
  · exact (signedOfBits_emod wellFormed).symm

theorem toNat?_eq {v : Value} (unsigned : v.kind.isUnsigned = true) : v.toNat? = some v.bits := by
  rw [toNat?, floatFormat?_of_integer (.inr unsigned)]

/-- Values of one kind with the same bytes are the same. -/
theorem IsOf.eq_of_bytes {v w : Value} {kind : Kind} (left : v.IsOf kind) (right : w.IsOf kind)
    (same : v.bytes = w.bytes) : v = w := by
  have bits : v.bits = w.bits := by
    rw [← left.wellFormed.decode_bytes, ← right.wellFormed.decode_bytes, same]
  obtain ⟨kindV, bitsV⟩ := v
  obtain ⟨kindW, bitsW⟩ := w
  cases left.kind
  cases right.kind
  cases bits
  rfl

end Value

end RegisterMap
