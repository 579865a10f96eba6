import RegisterMap.Proofs.Value.WellFormed

/-! # Integers in scalar values

An integer kind takes exactly the numbers of its range (`Kind.Represents`), from the signed and from
the unsigned machine words alike: `ofInt?_eq` and `ofNat?_eq_ofInt?` say what the two constructors
do on all numbers. Reading a value gives the number back that it was made of, and every well-formed
value is made of the number that is read from it. -/

namespace RegisterMap

namespace Kind

/-- The kind is one of integers. -/
def IsInteger (kind : Kind) : Prop :=
  kind.isSigned = true ∨ kind.isUnsigned = true

/-- The number lies in the range of an integer kind. -/
def Represents (kind : Kind) (i : Int) : Prop :=
  if kind.isSigned then -2 ^ (kind.bits - 1) ≤ i ∧ i ≤ 2 ^ (kind.bits - 1) - 1
  else 0 ≤ i ∧ i ≤ 2 ^ kind.bits - 1

instance (kind : Kind) (i : Int) : Decidable (kind.Represents i) :=
  inferInstanceAs (Decidable (if kind.isSigned then
    -2 ^ (kind.bits - 1) ≤ i ∧ i ≤ 2 ^ (kind.bits - 1) - 1 else 0 ≤ i ∧ i ≤ 2 ^ kind.bits - 1))

variable {kind : Kind}

theorem IsInteger.unsigned (integer : kind.IsInteger) (unsigned : ¬ kind.isSigned = true) :
    kind.isUnsigned = true :=
  integer.resolve_left unsigned

theorem IsInteger.not_signed (unsigned : kind.isUnsigned = true) : ¬ kind.isSigned = true := by
  cases kind <;> simp_all [isSigned, isUnsigned]

theorem IsInteger.bits_range (integer : kind.IsInteger) : 0 < kind.bits ∧ kind.bits ≤ 64 := by
  cases kind <;> simp_all [IsInteger, isSigned, isUnsigned, bits, size]

theorem Represents.lt {i : Int} (represented : kind.Represents i) (integer : kind.IsInteger) :
    i < 2 ^ kind.bits := by
  have half := Value.two_pow_eq_add_half integer.bits_range.1
  have room : (0 : Int) < 2 ^ (kind.bits - 1) := by positivity
  unfold Represents at represented
  split at represented <;> omega

end Kind

namespace Value

variable {kind : Kind}

/-! ## Making values -/

/-- An integer kind takes the numbers of its range, each as its pattern in two's complement. -/
theorem ofInt?_eq (integer : kind.IsInteger) (i : Int) :
    ofInt? kind i =
      if kind.Represents i then .ok ⟨kind, (i % 2 ^ kind.bits).toNat⟩
      else .error (.valueRange kind (Numeral.signedDecimal i)) := by
  unfold ofInt? Kind.Represents
  simp only [Nat.pow_eq, Nat.cast_pow, Nat.cast_ofNat, Int.le_sub_one_iff]
  by_cases signed : kind.isSigned = true
  · simp only [if_pos signed]
  · simp only [if_neg signed, if_pos (integer.unsigned signed)]
    split_ifs with inRange
    · rw [Int.emod_eq_of_lt inRange.1 inRange.2]
    · rfl

theorem ofInt?_eq_ok_iff (integer : kind.IsInteger) {i : Int} {v : Value} :
    ofInt? kind i = .ok v ↔ kind.Represents i ∧ v = ⟨kind, (i % 2 ^ kind.bits).toNat⟩ := by
  rw [ofInt?_eq integer]
  split_ifs with represented
  · simp [represented, eq_comm]
  · simp [represented]

theorem eq_valueRange_of_ofInt? (integer : kind.IsInteger) {i : Int} {e : CodecError}
    (refused : ofInt? kind i = .error e) : e = .valueRange kind (Numeral.signedDecimal i) := by
  rw [ofInt?_eq integer] at refused
  split_ifs at refused
  cases refused
  rfl

theorem signedDecimal_natCast (n : Nat) : Numeral.signedDecimal n = Numeral.decimal n := by
  rw [Numeral.signedDecimal, if_neg (by omega), Int.natAbs_natCast]

theorem natCast_emod_toNat {width n : Nat} (small : (n : Int) < 2 ^ width) :
    ((n : Int) % 2 ^ width).toNat = n := by
  rw [Int.emod_eq_of_lt (by omega) small, Int.toNat_natCast]

/-- Both constructors do the same with the same number, also if it is out of range. -/
theorem ofNat?_eq_ofInt? (integer : kind.IsInteger) (n : Nat) : ofNat? kind n = ofInt? kind n := by
  obtain ⟨positive, -⟩ := integer.bits_range
  have half := two_pow_eq_add_half positive
  have room : (0 : Int) < 2 ^ (kind.bits - 1) := by positivity
  have below : ∀ width, n < 2 ^ width ↔ (n : Int) ≤ 2 ^ width - 1 := by
    intro width
    rw [Int.le_sub_one_iff]
    exact_mod_cast Iff.rfl
  rw [ofInt?_eq integer, ofNat?, signedDecimal_natCast]
  simp only [Nat.pow_eq, below, Kind.Represents]
  by_cases signed : kind.isSigned = true
  · have unsigned : ¬ kind.isUnsigned = true := fun h => Kind.IsInteger.not_signed h signed
    simp only [if_neg unsigned, if_pos signed]
    by_cases fits : (n : Int) ≤ 2 ^ (kind.bits - 1) - 1
    · rw [if_pos fits, if_pos ⟨by omega, fits⟩, natCast_emod_toNat (by omega)]
    · rw [if_neg fits, if_neg fun range => fits range.2]
  · simp only [if_neg signed, if_pos (integer.unsigned signed)]
    by_cases fits : (n : Int) ≤ 2 ^ kind.bits - 1
    · rw [if_pos fits, if_pos ⟨by omega, fits⟩, natCast_emod_toNat (by omega)]
    · rw [if_neg fits, if_neg fun range => fits range.2]

/-! ## Reading values -/

theorem toNat?_eq_bits {v : Value} (integer : v.kind.IsInteger) : v.toNat? = some v.bits := by
  rw [toNat?, floatFormat?_of_integer integer]

/-- A 64-bit number is read from the value that is made of it. -/
theorem toInt?_of_represents (integer : kind.IsInteger) {i : Int} (word : i < 2 ^ 63)
    (represented : kind.Represents i) :
    (⟨kind, (i % 2 ^ kind.bits).toNat⟩ : Value).toInt? = some i := by
  obtain ⟨positive, narrow⟩ := integer.bits_range
  rw [toInt?, floatFormat?_of_integer integer]
  unfold Kind.Represents at represented
  by_cases signed : kind.isSigned = true
  · simp only [if_pos signed] at represented ⊢
    rw [signedOfBits_toNat_emod positive represented.1 (by omega)]
  · simp only [if_neg signed] at represented ⊢
    -- The pattern of an unsigned number is the number, and as a word of 64 bits it is positive.
    rw [Int.emod_eq_of_lt represented.1 (by omega), signedOfBits_eq, if_neg (by omega),
      Int.toNat_of_nonneg represented.1]

/-- The number of a signed value is a machine word of the range of its kind. -/
theorem IsOf.exists_word {v : Value} (isOf : v.IsOf kind) (signed : kind.isSigned = true) :
    ∃ i : Int64, v.toInt? = some i.toInt ∧ kind.Represents i.toInt ∧
      (i.toInt % 2 ^ kind.bits).toNat = v.bits := by
  obtain ⟨positive, narrow⟩ := Kind.IsInteger.bits_range (.inl signed)
  have small : v.bits < 2 ^ kind.bits := isOf.kind ▸ isOf.wellFormed
  obtain ⟨low, high⟩ := signedOfBits_range positive small
  have wide : (2 : Int) ^ (kind.bits - 1) ≤ 2 ^ 63 :=
    pow_le_pow_right₀ (by norm_num) (by omega)
  have word : (Int64.ofInt (signedOfBits kind.bits v.bits)).toInt = signedOfBits kind.bits v.bits :=
    Int64.toInt_ofInt_of_le (by omega) (by omega)
  refine ⟨.ofInt (signedOfBits kind.bits v.bits), ?_, ?_, ?_⟩
  · rw [word, toInt?, isOf.kind, floatFormat?_of_integer (.inl signed), if_pos signed]
  · rw [word, Kind.Represents, if_pos signed]
    constructor <;> omega
  · rw [word, signedOfBits_emod small, Int.toNat_natCast]

theorem IsOf.exists_natural {v : Value} (isOf : v.IsOf kind) (unsigned : kind.isUnsigned = true) :
    ∃ n : UInt64, v.toNat? = some n.toNat ∧ n.toNat = v.bits ∧ kind.Represents n.toNat := by
  obtain ⟨-, narrow⟩ := Kind.IsInteger.bits_range (.inr unsigned)
  have small : v.bits < 2 ^ kind.bits := isOf.kind ▸ isOf.wellFormed
  have wide : 2 ^ kind.bits ≤ 2 ^ 64 := Nat.pow_le_pow_right (by omega) narrow
  have word : (UInt64.ofNat v.bits).toNat = v.bits :=
    UInt64.toNat_ofNat_of_lt' (small.trans_le wide)
  refine ⟨.ofNat v.bits, ?_, word, ?_⟩
  · rw [word, toNat?_eq (isOf.kind ▸ unsigned)]
  · rw [word, Kind.Represents, if_neg (Kind.IsInteger.not_signed unsigned), Int.le_sub_one_iff]
    exact ⟨by omega, by exact_mod_cast small⟩

/-! ## Both ways -/

/-- The constructors of an integer kind accept exactly the numbers of its range and keep them, and
    on one number they agree. Every well-formed value is made of the number that is read from it. -/
theorem constructors_keep_integers (kind : Kind) (integer : kind.IsInteger) :
    (∀ i : Int64,
      ((∃ v, ofInt? kind i.toInt = .ok v) ↔ kind.Represents i.toInt) ∧
      (∀ e, ofInt? kind i.toInt = .error e →
        e = .valueRange kind (Numeral.signedDecimal i.toInt)) ∧
      ∀ v, ofInt? kind i.toInt = .ok v → v.kind = kind ∧ v.toInt? = some i.toInt ∧
        v.toNat? = some (i.toInt % 2 ^ kind.bits).toNat) ∧
    (∀ n : UInt64,
      ((∃ v, ofNat? kind n.toNat = .ok v) ↔ kind.Represents n.toNat) ∧
      (∀ e, ofNat? kind n.toNat = .error e → e = .valueRange kind (Numeral.decimal n.toNat)) ∧
      ∀ v, ofNat? kind n.toNat = .ok v → v.kind = kind ∧ v.toNat? = some n.toNat) ∧
    (∀ (i : Int64) (n : UInt64), i.toInt = n.toNat → ofInt? kind i.toInt = ofNat? kind n.toNat) ∧
    (∀ v : Value, v.IsOf kind → kind.isSigned = true →
      ∃ i : Int64, v.toInt? = some i.toInt ∧ ofInt? kind i.toInt = .ok v) ∧
    (∀ v : Value, v.IsOf kind → kind.isUnsigned = true →
      ∃ n : UInt64, v.toNat? = some n.toNat ∧ ofNat? kind n.toNat = .ok v) := by
  refine ⟨?_, ?_, ?_, ?_, ?_⟩
  · intro i
    refine ⟨⟨?_, ?_⟩, fun e => eq_valueRange_of_ofInt? integer, ?_⟩
    · rintro ⟨v, made⟩
      exact ((ofInt?_eq_ok_iff integer).1 made).1
    · exact fun represented => ⟨_, (ofInt?_eq_ok_iff integer).2 ⟨represented, rfl⟩⟩
    · intro v made
      obtain ⟨represented, rfl⟩ := (ofInt?_eq_ok_iff integer).1 made
      exact ⟨rfl, toInt?_of_represents integer i.toInt_lt represented, toNat?_eq_bits integer⟩
  · intro n
    rw [ofNat?_eq_ofInt? integer, ← signedDecimal_natCast]
    refine ⟨⟨?_, ?_⟩, fun e => eq_valueRange_of_ofInt? integer, ?_⟩
    · rintro ⟨v, made⟩
      exact ((ofInt?_eq_ok_iff integer).1 made).1
    · exact fun represented => ⟨_, (ofInt?_eq_ok_iff integer).2 ⟨represented, rfl⟩⟩
    · intro v made
      obtain ⟨represented, rfl⟩ := (ofInt?_eq_ok_iff integer).1 made
      refine ⟨rfl, ?_⟩
      rw [toNat?_eq_bits integer, natCast_emod_toNat (represented.lt integer)]
  · intro i n same
    rw [ofNat?_eq_ofInt? integer, same]
  · intro v isOf signed
    obtain ⟨i, read, represented, pattern⟩ := isOf.exists_word signed
    refine ⟨i, read, (ofInt?_eq_ok_iff integer).2 ⟨represented, ?_⟩⟩
    rw [pattern, ← isOf.kind]
  · intro v isOf unsigned
    obtain ⟨n, read, pattern, represented⟩ := isOf.exists_natural unsigned
    refine ⟨n, read, ?_⟩
    rw [ofNat?_eq_ofInt? integer]
    refine (ofInt?_eq_ok_iff integer).2 ⟨represented, ?_⟩
    rw [natCast_emod_toNat (represented.lt integer), pattern, ← isOf.kind]

theorem integers_of_int8 :
    Kind.int8.IsInteger ∧
      (∃ v, ofInt? .int8 (-128) = .ok v ∧ v.toInt? = some (-128) ∧ v.toNat? = some 128) ∧
      (¬ ∃ v, ofInt? .int8 (-129) = .ok v) ∧
      ofNat? .int8 127 = ofInt? .int8 127 := by
  have integer : Kind.int8.IsInteger := .inl rfl
  obtain ⟨ints, -, agree, -⟩ := constructors_keep_integers .int8 integer
  refine ⟨integer, ?_, ?_, (agree 127 127 rfl).symm⟩
  · obtain ⟨accepted, -, kept⟩ := ints (-128)
    obtain ⟨v, made⟩ := accepted.2 (by decide)
    exact ⟨v, made, (kept v made).2⟩
  · intro made
    exact absurd ((ints (-129)).1.1 made) (by decide)

end Value

end RegisterMap
