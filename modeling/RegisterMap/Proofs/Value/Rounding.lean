import RegisterMap.Group.Path
import RegisterMap.Proofs.FloatFormat.Conversion
import RegisterMap.Proofs.Numeral.RealLiteral
import RegisterMap.Proofs.Value.Integer

/-! # Integers in floating-point values

An integer that is stored in a double-precision value is rounded once, as its text is. In a
single-precision value it is rounded twice, to double precision and from there to single precision.
The result is that of the text, which is the nearest one, unless double precision ends midway
between two single-precision numbers and the integer is nearer to the odd one (`stores_integers`).
Such integers lie above `2 ^ 53`, and there are some (`single_precision_rounded_twice`). -/

namespace RegisterMap

open FloatFormat

/-! ## Integers of a machine word -/

theorem FloatFormat.binary64_refines_binary32 : binary64.Refines binary32 where
  longer := by decide
  finer := by decide

theorem FloatFormat.intCast_eq (i : Int) :
    (i : ℚ) = if decide (i < 0) then -(i.natAbs : ℚ) else i.natAbs := by
  have cast : ((i.natAbs : ℤ) : ℚ) = i.natAbs := Int.cast_natCast _
  split_ifs with negative
  · rw [← cast, Int.ofNat_natAbs_of_nonpos (of_decide_eq_true negative).le]
    simp
  · rw [← cast, Int.natAbs_of_nonneg (by simpa using negative)]

namespace Kind

variable {kind : Kind} {f : FloatFormat}

theorem format_float32 : float32.floatFormat? = some binary32 := rfl

theorem format_float64 : float64.floatFormat? = some binary64 := rfl

theorem isFloat_of_format (format : kind.floatFormat? = some f) :
    ¬ kind.isSigned = true ∧ ¬ kind.isUnsigned = true ∧ kind.isFloat = true := by
  cases kind <;> simp_all [floatFormat?, isSigned, isUnsigned, isFloat]

/-- The formats of values reach beyond all machine words. -/
theorem exists_above (format : kind.floatFormat? = some f) :
    0 < f.fractionBits ∧ ∃ top < f.infinity, f.grid top = 2 ^ 64 := by
  cases kind <;> simp only [floatFormat?, Option.some.injEq, reduceCtorEq] at format
  · subst format
    refine ⟨by decide, _, ?_, binary32.grid_run_start 190⟩
    decide
  · subst format
    refine ⟨by decide, _, ?_, binary64.grid_run_start 1086⟩
    decide

/-- What lies within machine words is rounded to a finite number of the format. -/
theorem round_word (format : kind.floatFormat? = some f) (num : Nat) {den : Nat}
    (positive : 0 < den) (word : (num / den : ℚ) ≤ 2 ^ 64) :
    f.NearestMagnitude (num / den) (f.round num den) ∧ f.round num den < f.infinity := by
  obtain ⟨fractional, top, finite, number⟩ := exists_above format
  exact round_nearest fractional num positive finite (by rwa [number])

end Kind

namespace Value

variable {kind : Kind} {f : FloatFormat}

/-- The text of an integer reads as the integer rounded once. -/
theorem parse?_signedDecimal_of_format (format : kind.floatFormat? = some f) {i : Int}
    (word : i.natAbs ≤ 2 ^ 64) :
    parse? kind (Numeral.signedDecimal i) =
      .ok ⟨kind, f.signed (i < 0) (f.round i.natAbs 1)⟩ := by
  obtain ⟨notSigned, notUnsigned, -⟩ := Kind.isFloat_of_format format
  obtain ⟨-, finite⟩ := Kind.round_word format i.natAbs one_pos
    (by rw [Nat.cast_one, div_one]; exact_mod_cast word)
  rw [parse?, if_neg notSigned, if_neg notUnsigned, format]
  simp only [Numeral.readReal?_signedDecimal, Numeral.RealLiteral.toBits?,
    Numeral.RealLiteral.toBits?.finite]
  simp [finite.ne]

/-- A double-precision number within machine words goes into every floating-point kind. -/
theorem ofDouble?_signed (format : kind.floatFormat? = some f) (negative : Bool) {p : Nat}
    (finite : p < binary64.infinity) (word : binary64.grid p ≤ 2 ^ 64) :
    ofDouble? kind (binary64.signed negative p) =
      .ok ⟨kind, binary64.convert f (binary64.signed negative p)⟩ := by
  obtain ⟨mantissa, exponent, number, value⟩ := binary64.decode_signed negative finite
  obtain ⟨-, top, below, reach⟩ := Kind.exists_above format
  have inside : ¬ f.exceeds mantissa exponent = true := by
    rw [exceeds_iff (by omega), value, not_lt]
    calc binary64.grid p ≤ f.grid top := by rwa [reach]
      _ ≤ f.grid (f.infinity - 1) := f.grid_strictMono.monotone (by omega)
  rw [ofDouble?, format]
  simp only [number, if_neg inside]

/-- An integer goes into a floating-point kind through double precision. -/
theorem ofInt?_of_format (format : kind.floatFormat? = some f) (i : Int) :
    ofInt? kind i = ofDouble? kind (binary64.signed (i < 0) (binary64.round i.natAbs 1)) := by
  obtain ⟨notSigned, notUnsigned, float⟩ := Kind.isFloat_of_format format
  rw [ofInt?, if_neg notSigned, if_neg notUnsigned, if_pos float, FloatFormat.ofInt]

theorem ofNat?_of_format (format : kind.floatFormat? = some f) (n : Nat) :
    ofNat? kind n = ofInt? kind n := by
  obtain ⟨notSigned, notUnsigned, float⟩ := Kind.isFloat_of_format format
  rw [ofNat?, ofInt?, if_neg notSigned, if_neg notUnsigned, if_pos float, if_neg notSigned,
    if_neg notUnsigned]

/-! ## Double precision -/

variable {i : Int}

/-- A machine word in double precision is the nearest number. -/
theorem round_double (word : i.natAbs ≤ 2 ^ 64) :
    binary64.NearestMagnitude i.natAbs (binary64.round i.natAbs 1) ∧
      binary64.round i.natAbs 1 < binary64.infinity ∧
      binary64.grid (binary64.round i.natAbs 1) ≤ 2 ^ 64 := by
  have bound : (i.natAbs : ℚ) ≤ 2 ^ 64 := by exact_mod_cast word
  obtain ⟨nearest, finite⟩ := Kind.round_word Kind.format_float64 i.natAbs one_pos
    (by rwa [Nat.cast_one, div_one])
  obtain ⟨-, top, -, reach⟩ := Kind.exists_above Kind.format_float64
  rw [Nat.cast_one, div_one] at nearest
  exact ⟨nearest, finite, (nearest.grid_le (by rwa [reach])).trans_eq reach⟩

theorem exists_double (word : i.natAbs ≤ 2 ^ 64) :
    ∃ bits, ofInt? .float64 i = .ok ⟨.float64, bits⟩ ∧
      parse? .float64 (Numeral.signedDecimal i) = .ok ⟨.float64, bits⟩ ∧
      binary64.Nearest i bits := by
  obtain ⟨nearest, finite, bound⟩ := round_double word
  refine ⟨_, ?_, parse?_signedDecimal_of_format rfl word, ?_⟩
  · rw [ofInt?_of_format rfl, ofDouble?_signed rfl _ finite bound, convert, if_pos rfl]
  · rw [intCast_eq i]
    exact nearest.signed (by decide) (by positivity) finite _

/-! ## Single precision -/

/-- The double-precision number nearest to the integer lies midway between the numbers of two
    single-precision patterns, and the integer is nearer to the second. -/
def LosesTie (i : Int) (stored nearest : Nat) : Prop :=
  ∃ wide y z, binary64.number? (binary64.ofInt i) = some wide ∧
    binary32.number? stored = some y ∧ binary32.number? nearest = some z ∧
    2 * wide = y + z ∧ |i - z| < |i - y|

theorem LosesTie.ne {stored nearest : Nat} (loses : LosesTie i stored nearest) :
    stored ≠ nearest := by
  rintro rfl
  obtain ⟨wide, y, z, -, left, right, -, nearer⟩ := loses
  rw [left] at right
  cases right
  exact lt_irrefl _ nearer

theorem exists_single (word : i.natAbs ≤ 2 ^ 64) :
    ∃ stored nearest wide, ofInt? .float32 i = .ok ⟨.float32, stored⟩ ∧
      parse? .float32 (Numeral.signedDecimal i) = .ok ⟨.float32, nearest⟩ ∧
      binary32.Nearest i nearest ∧
      binary64.number? (binary64.ofInt i) = some wide ∧ binary32.Nearest wide stored ∧
      (stored ≠ nearest ↔ LosesTie i stored nearest) ∧
      (i.natAbs ≤ 2 ^ 53 → stored = nearest) := by
  obtain ⟨first, finite, bound⟩ := round_double word
  obtain ⟨num, den, positive, number, converted⟩ :=
    convert_signed (show binary64 ≠ binary32 by decide) (i < 0) finite
  obtain ⟨second, finiteSecond⟩ := Kind.round_word Kind.format_float32 num positive
    (by rwa [number])
  obtain ⟨once, finiteOnce⟩ := Kind.round_word Kind.format_float32 i.natAbs one_pos
    (by rw [Nat.cast_one, div_one]; exact_mod_cast word)
  rw [number] at second
  rw [Nat.cast_one, div_one] at once
  refine ⟨binary32.signed (i < 0) (binary32.round num den), _, _, ?_,
    parse?_signedDecimal_of_format rfl word, ?_, number?_signed _ finite, ?_, ?_, ?_⟩
  · rw [ofInt?_of_format rfl, ofDouble?_signed rfl _ finite bound, converted]
  · rw [intCast_eq i]
    exact once.signed (by decide) (by positivity) finiteOnce _
  · exact second.signed (by decide) (binary64.grid_nonneg _) finiteSecond _
  · refine ⟨fun different => ?_, LosesTie.ne⟩
    rcases first.narrowed binary64_refines_binary32 second once with same | ⟨middle, nearer⟩
    · exact absurd (congrArg _ same) different
    · refine ⟨_, _, _, number?_signed _ finite, number?_signed _ finiteSecond,
        number?_signed _ finiteOnce, ?_, ?_⟩
      · simp only [signedGrid]
        split <;> linarith
      · rw [intCast_eq i, abs_sub_signedGrid, abs_sub_signedGrid]
        exact nearer
  · -- Up to this bound the integer is a double-precision number itself.
    intro short
    obtain ⟨p, exact⟩ := binary64.exists_grid_eq (n := i.natAbs) short (e := 0) (by decide)
    rw [zpow_zero, mul_one] at exact
    rw [← exact] at first once
    rw [first.unique (.of_grid p)] at second
    rw [second.unique once]

/-! ## Storing integers -/

/-- How a constructor treats an integer in the floating-point kinds. -/
structure StoresInteger (make : Kind → Except CodecError Value) (i : Int) : Prop where
  /-- In double precision the integer is rounded once, and so is its text. -/
  double : ∃ bits, make .float64 = .ok ⟨.float64, bits⟩ ∧
    parse? .float64 (Numeral.signedDecimal i) = .ok ⟨.float64, bits⟩ ∧ binary64.Nearest i bits
  /-- In single precision its text is rounded once. The integer is rounded to double precision
      first, which makes a difference if and only if that ends midway between the two results. -/
  single : ∃ stored nearest wide, make .float32 = .ok ⟨.float32, stored⟩ ∧
    parse? .float32 (Numeral.signedDecimal i) = .ok ⟨.float32, nearest⟩ ∧
    binary32.Nearest i nearest ∧
    binary64.number? (binary64.ofInt i) = some wide ∧ binary32.Nearest wide stored ∧
    (stored ≠ nearest ↔ LosesTie i stored nearest) ∧ (i.natAbs ≤ 2 ^ 53 → stored = nearest)

theorem storesInteger_ofInt? (word : i.natAbs ≤ 2 ^ 64) : StoresInteger (ofInt? · i) i :=
  ⟨exists_double word, exists_single word⟩

theorem storesInteger_ofNat? {n : Nat} (word : n ≤ 2 ^ 64) : StoresInteger (ofNat? · n) n := by
  obtain ⟨double, single⟩ := storesInteger_ofInt? (i := n) (by rwa [Int.natAbs_natCast])
  constructor
  · simpa only [ofNat?_of_format Kind.format_float64] using double
  · simpa only [ofNat?_of_format Kind.format_float32] using single

end Value

theorem Group.setWith?_congr {g : Group} {path : String} {old : Value}
    {make make' : Kind → Except CodecError Value} (found : g.get? path = .ok old)
    (same : make old.kind = make' old.kind) : g.setWith? path make = g.setWith? path make' := by
  unfold Group.setWith?
  rw [found]
  simp only [same]

namespace Value

/-- Machine words are stored in floating-point values by rounding, in single precision through
    double precision. A floating-point field of a group is assigned the value of the text of the
    integer, in single precision if the two roundings give what one gives. -/
theorem stores_integers (i : Int64) (n : UInt64) (g : Group) (path : String) :
    StoresInteger (ofInt? · i.toInt) i.toInt ∧
    StoresInteger (ofNat? · n.toNat) n.toNat ∧
    (∀ old, g.get? path = .ok old →
      old.kind = .float64 ∨ old.kind = .float32 ∧
        ofInt? .float32 i.toInt = parse? .float32 (Numeral.signedDecimal i.toInt) →
      g.setInt? path i.toInt = g.setText? path (Numeral.signedDecimal i.toInt)) ∧
    (∀ old, g.get? path = .ok old →
      old.kind = .float64 ∨ old.kind = .float32 ∧
        ofNat? .float32 n.toNat = parse? .float32 (Numeral.decimal n.toNat) →
      g.setNat? path n.toNat = g.setText? path (Numeral.decimal n.toNat)) := by
  have low := i.le_toInt
  have high := i.toInt_lt
  have int : StoresInteger (ofInt? · i.toInt) i.toInt := storesInteger_ofInt? (by omega)
  have nat : StoresInteger (ofNat? · n.toNat) n.toNat := storesInteger_ofNat? n.toNat_lt.le
  refine ⟨int, nat, ?_, ?_⟩
  · intro old found agree
    apply Group.setWith?_congr found
    rcases agree with double | ⟨single, same⟩
    · obtain ⟨bits, made, read, -⟩ := int.double
      rw [double, made, read]
    · rw [single, same]
  · intro old found agree
    apply Group.setWith?_congr found
    rcases agree with double | ⟨single, same⟩
    · obtain ⟨bits, made, read, -⟩ := nat.double
      rw [signedDecimal_natCast] at read
      rw [double, made, read]
    · rw [single, same]

theorem single_precision_field_assigned :
    ∃ g after : Group, g.get? "gain" = .ok (zero .float32) ∧
      ofInt? .float32 (16777217 : Int64).toInt = .ok ⟨.float32, 0x4b800000⟩ ∧
      ofInt? .float32 (16777217 : Int64).toInt =
        parse? .float32 (Numeral.signedDecimal (16777217 : Int64).toInt) ∧
      g.setInt? "gain" (16777217 : Int64).toInt = .ok after ∧
      g.setText? "gain" (Numeral.signedDecimal (16777217 : Int64).toInt) = .ok after ∧
      after.get? "gain" = .ok ⟨.float32, 0x4b800000⟩ := by
  let g : Group := ⟨⟨"level", 1, .readWrite⟩, .scalar "gain" .float32 (zero .float32) .nil⟩
  have found : g.get? "gain" = .ok (zero .float32) := by decide
  have stored : ofInt? .float32 (16777217 : Int64).toInt = .ok ⟨.float32, 0x4b800000⟩ := by
    decide +kernel
  have same : ofInt? .float32 (16777217 : Int64).toInt =
      parse? .float32 (Numeral.signedDecimal (16777217 : Int64).toInt) := by
    decide +kernel
  have assigned : g.setInt? "gain" (16777217 : Int64).toInt = .ok
      ⟨⟨"level", 1, .readWrite⟩, .scalar "gain" .float32 ⟨.float32, 0x4b800000⟩ .nil⟩ := by
    decide +kernel
  obtain ⟨-, -, field, -⟩ := stores_integers 16777217 0 g "gain"
  refine ⟨g, _, found, stored, same, assigned, ?_, by decide⟩
  rw [← field _ found (.inr ⟨rfl, same⟩)]
  exact assigned

/-- The double-precision number nearest to `2 ^ 60 + 2 ^ 36 + 1` is `2 ^ 60 + 2 ^ 36`, midway
    between two single-precision numbers of which `2 ^ 60` is even. The integer is nearer to the odd
    one, `2 ^ 60 + 2 ^ 37`. -/
theorem single_precision_rounded_twice :
    ofInt? .float32 (1152921573326323713 : Int64).toInt = .ok ⟨.float32, 0x5d800000⟩ ∧
      parse? .float32 "1152921573326323713" = .ok ⟨.float32, 0x5d800001⟩ ∧
      ¬ binary32.Nearest 1152921573326323713 0x5d800000 := by
  refine ⟨by decide +kernel, by decide +kernel, ?_⟩
  have even : binary32.number? 0x5d800000 = some (2 ^ 60) := by
    rw [number?, show binary32.decode 0x5d800000 = .finite false (2 ^ 23) 37 by decide]
    norm_num [FloatNumber.value?]
  have odd : binary32.number? 0x5d800001 = some (2 ^ 60 + 2 ^ 37) := by
    rw [number?, show binary32.decode 0x5d800001 = .finite false (2 ^ 23 + 1) 37 by decide]
    norm_num [FloatNumber.value?]
  rintro ⟨y, number, nearer⟩
  rw [even] at number
  cases number
  rcases nearer _ _ odd (by norm_num) with less | ⟨same, -⟩
  · norm_num [abs_of_nonneg, abs_of_nonpos] at less
  · norm_num at same

end Value

end RegisterMap
