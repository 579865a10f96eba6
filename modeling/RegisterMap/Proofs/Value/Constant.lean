import RegisterMap.Proofs.FloatFormat.Text
import RegisterMap.Proofs.Value.Rounding
import RegisterMap.Proofs.Value.Text
import RegisterMap.Proofs.Value.Transfer

/-! # Typed constants

An exact constant takes a kind if the kind represents it: an integer kind takes the integers of its
range, and a floating-point kind what does not overflow when it is rounded once. Exact numbers have
one zero, so no constant is a negative zero. The texts of values are constants that give back the
patterns of the values, the negative zero apart (`readConstant?_text_float`). -/

namespace RegisterMap

open Numeral

namespace FloatFormat

variable {f : FloatFormat}

/-- The pattern of a constant of the format. -/
def ofConstant? (f : FloatFormat) (q : ℚ) : Option Nat :=
  let m := f.round q.num.natAbs q.den
  if m = f.infinity then none else some (f.signed (q < 0 && m != 0) m)

theorem ofConstant?_of_nearest (fractional : 0 < f.fractionBits) {q : ℚ} {m : Nat} (nonneg : 0 ≤ q)
    (nearest : f.NearestMagnitude q m) (finite : m < f.infinity) (negative : Bool) :
    f.ofConstant? (if negative then -q else q) = some (f.signed (negative && m != 0) m) := by
  have quotient : (q.num.natAbs / q.den : ℚ) = q := by
    rw [Nat.cast_natAbs, abs_of_nonneg (Rat.num_nonneg.2 nonneg)]
    exact Rat.num_div_den q
  obtain ⟨p, rounded, round⟩ := round_eq_min fractional q.num.natAbs q.pos
  rw [quotient] at rounded
  obtain rfl := nearest.unique rounded
  rw [min_eq_left finite.le] at round
  -- What is rounded to a positive number is no zero.
  have positive : m ≠ 0 → 0 < q := by
    intro some
    refine lt_of_le_of_ne nonneg ?_
    rintro rfl
    exact some (nearest.unique (f.grid_zero ▸ .of_grid 0))
  cases negative with
  | false =>
    have sign : ¬ q < 0 := not_lt.2 nonneg
    simp [ofConstant?, round, finite.ne, sign]
  | true =>
    have sign : (decide (0 < q) && m != 0) = (m != 0) := by
      rcases eq_or_ne m 0 with rfl | some
      · simp
      · simpa [some] using positive some
    simp [ofConstant?, round, finite.ne, sign]

end FloatFormat

namespace Kind

variable {k : Kind}

/-- The pattern of a constant of the kind. -/
def ofConstant? (k : Kind) (q : ℚ) : Option Nat :=
  match k.floatFormat? with
  | some f => f.ofConstant? q
  | .none =>
    if k.isScalar = true ∧ q.den = 1 ∧ k.Represents q.num then some (q.num % 2 ^ k.bits).toNat
    else .none

/-- The pattern of a constant expression that is converted to the kind. -/
def readConstant? (k : Kind) (text : String) : Option Nat :=
  (constantNumber? text.toList).bind k.ofConstant?

theorem ofConstant?_intCast (integer : k.IsInteger) {i : Int} (represented : k.Represents i) :
    k.ofConstant? i = some (i % 2 ^ k.bits).toNat := by
  have scalar : k.isScalar = true := Value.isScalar_of_integer integer
  rw [ofConstant?, Value.floatFormat?_of_integer integer]
  simp [scalar, represented]

theorem readConstant?_signedDecimal (integer : k.IsInteger) {i : Int}
    (represented : k.Represents i) :
    k.readConstant? (signedDecimal i) = some (i % 2 ^ k.bits).toNat := by
  rw [readConstant?, constantNumber?_signedDecimal, Option.bind_some,
    ofConstant?_intCast integer represented]

theorem readConstant?_hex (unsigned : k.isUnsigned = true) {n : Nat} (small : n < 2 ^ k.bits) :
    k.readConstant? ("0x" ++ hex n) = some n := by
  have represented : k.Represents n := (represents_natCast_iff unsigned).2 small
  rw [readConstant?, constantNumber?_of_literal (literalNumber?_hex n), Option.bind_some,
    ← Int.cast_natCast, ofConstant?_intCast (.inr unsigned) represented,
    Value.natCast_emod_toNat (by exact_mod_cast small)]

theorem printable_of_format {f : FloatFormat} (format : k.floatFormat? = some f) :
    f.Printable := by
  cases k <;> simp only [floatFormat?, Option.some.injEq, reduceCtorEq] at format
  all_goals
    subst format
    constructor <;> decide

theorem readConstant?_render {f : FloatFormat} (format : k.floatFormat? = some f) {bits : Nat}
    (small : bits < 2 ^ f.width) (finite : f.magnitude bits < f.infinity) :
    k.readConstant? (FloatLayout.general.render f bits) =
      some (if bits = f.signBit then 0 else bits) := by
  obtain ⟨-, fractional⟩ := bits_of_floatFormat format
  obtain ⟨q, read, nonneg, nearest⟩ :=
    FloatLayout.constantNumber?_render .general (printable_of_format format) finite
  rw [readConstant?, read, Option.bind_some, ofConstant?, format]
  dsimp only
  rw [FloatFormat.ofConstant?_of_nearest fractional nonneg nearest finite]
  have whole := FloatFormat.signed_magnitude small
  congr 1
  rcases eq_or_ne (f.magnitude bits) 0 with zero | some
  · have positive : 0 < f.signBit := Nat.two_pow_pos _
    rw [zero, FloatFormat.signed] at whole
    rw [zero, bne_self_eq_false, Bool.and_false, FloatFormat.signed, if_neg Bool.false_ne_true]
    split_ifs at whole ⊢ <;> omega
  · have other : bits ≠ f.signBit := by
      rintro rfl
      exact some (Nat.mod_self _)
    rw [if_neg other, bne_iff_ne.2 some, Bool.and_true, whole]

end Kind

namespace Value

variable {v : Value} {f : FloatFormat}

/-- A floating-point value is a finite number. -/
def Finite (v : Value) : Prop :=
  ∀ f, v.kind.floatFormat? = some f → f.magnitude v.bits < f.infinity

/-- The zero of a floating-point kind that has a sign. -/
def isNegativeZero (v : Value) : Bool :=
  match v.kind.floatFormat? with
  | some f => v.bits == f.signBit
  | none => false

/-- A number that is written with digits is finite, or it is refused. -/
theorem finite_of_toBits? {text : List Char} {literal : RealLiteral} {bits : Nat}
    (read : readDigits? text = some literal) (pattern : literal.toBits? f = some bits) :
    f.magnitude bits < f.infinity := by
  have rounded : ∀ negative num den,
      RealLiteral.toBits?.finite f negative (f.round num den) = some bits →
        f.magnitude bits < f.infinity := by
    intro negative num den made
    rw [RealLiteral.toBits?.finite] at made
    split_ifs at made with overflow
    cases made
    rw [FloatFormat.magnitude_signed _ (f.round_lt _ _)]
    exact lt_of_le_of_ne (f.round_le_infinity _ _) overflow
  obtain ⟨negative, mantissa, exponent, rfl | rfl⟩ := exists_of_readDigits? read
  · exact rounded _ _ _ pattern
  · exact rounded _ _ _ pattern

theorem finite_of_parse? {kind : Kind} {text : String} (made : parse? kind text = .ok v)
    (noWord : readSpecial? text.toList = none) : v.Finite := by
  intro f format
  have isOf := isOf_parse made
  rw [isOf.kind] at format
  obtain ⟨notSigned, notUnsigned, -⟩ := Kind.isFloat_of_format format
  rw [parse?, if_neg notSigned, if_neg notUnsigned, format] at made
  dsimp only at made
  rw [readReal?, noWord] at made
  dsimp only at made
  split at made
  · cases made
  · next literal read =>
    split at made
    · cases made
    · next bits pattern =>
      cases made
      exact finite_of_toBits? read pattern

end Value

end RegisterMap
