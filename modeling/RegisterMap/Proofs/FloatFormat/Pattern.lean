import Mathlib.Tactic
import RegisterMap.FloatFormat.Rounding

/-! # Patterns of floating-point numbers

A pattern is a sign bit above a magnitude. Every magnitude that rounding or conversion produces
stays below the sign bit (`signed_lt`, `ofInt_lt`, `convert_lt`).

The finite numbers are those whose magnitude is below infinity, and the number of a pattern is a
whole number of units, the smallest positive number of the format being the unit (`number?_eq`). -/

namespace RegisterMap

/-- The number itself, if it is finite. -/
def FloatNumber.value? : FloatNumber → Option ℚ
  | .finite negative mantissa exponent =>
    some (if negative then -(mantissa * 2 ^ exponent) else mantissa * 2 ^ exponent)
  | _ => none

namespace FloatFormat

variable (f : FloatFormat)

theorem signBit_eq : f.signBit = 2 ^ (f.exponentBits + f.fractionBits) := rfl

theorem infinity_eq : f.infinity = (2 ^ f.exponentBits - 1) * 2 ^ f.fractionBits := rfl

theorem quietBit_eq : f.quietBit = 2 ^ (f.fractionBits - 1) := rfl

theorem two_pow_width : 2 ^ f.width = 2 * f.signBit := by
  rw [FloatFormat.width, signBit_eq, Nat.add_assoc, Nat.add_comm 1, pow_succ']

theorem signed_lt (negative : Bool) {magnitude : Nat} (small : magnitude < f.signBit) :
    f.signed negative magnitude < 2 ^ f.width := by
  rw [signed, two_pow_width]
  split <;> omega

/-- Above infinity there is room for one fraction field. -/
theorem infinity_add_lt {fraction : Nat} (small : fraction < 2 ^ f.fractionBits) :
    f.infinity + fraction < f.signBit := by
  have positive : 0 < 2 ^ f.exponentBits := by positivity
  calc f.infinity + fraction
      < (2 ^ f.exponentBits - 1) * 2 ^ f.fractionBits + 2 ^ f.fractionBits := by
        rw [infinity_eq]; omega
    _ = (2 ^ f.exponentBits - 1 + 1) * 2 ^ f.fractionBits := by ring
    _ = f.signBit := by rw [Nat.sub_add_cancel positive, signBit_eq, pow_add]

theorem infinity_lt : f.infinity < f.signBit :=
  f.infinity_add_lt (by positivity)

theorem round_le_infinity (num den : Nat) : f.round num den ≤ f.infinity := by
  rw [round]
  split
  · exact Nat.zero_le _
  · exact Nat.min_le_right _ _

theorem round_lt (num den : Nat) : f.round num den < f.signBit :=
  (f.round_le_infinity num den).trans_lt f.infinity_lt

theorem ofInt_lt (i : Int) : f.ofInt i < 2 ^ f.width :=
  f.signed_lt _ (f.round_lt _ _)

/-- The leading bits of a fraction that is brought to another length. -/
theorem rescaled_lt {fraction old : Nat} (new : Nat) (small : fraction < 2 ^ old) :
    fraction * 2 ^ (new - old) / 2 ^ (old - new) < 2 ^ new := by
  rw [Nat.div_lt_iff_lt_mul (by positivity), ← pow_add]
  calc fraction * 2 ^ (new - old) < 2 ^ old * 2 ^ (new - old) :=
        Nat.mul_lt_mul_of_pos_right small (by positivity)
    _ = 2 ^ (new + (old - new)) := by
        rw [← pow_add]
        congr 1
        omega

theorem convert_lt (source target : FloatFormat) (fractional : 0 < target.fractionBits)
    {bits : Nat} (small : bits < 2 ^ source.width) :
    source.convert target bits < 2 ^ target.width := by
  rw [convert]
  split_ifs with same
  · rwa [← same]
  · cases source.decode bits with
    | nan =>
      apply target.signed_lt
      apply target.infinity_add_lt
      have kept := rescaled_lt target.fractionBits
        (Nat.mod_lt bits (show 0 < 2 ^ source.fractionBits by positivity))
      -- The quiet bit is the top one of the fraction, so setting it stays within the fraction.
      have halves : 2 ^ target.fractionBits = target.quietBit + target.quietBit := by
        rw [quietBit_eq, ← Nat.two_mul, ← pow_succ', Nat.sub_add_cancel fractional]
      split <;> omega
    | infinite => exact target.signed_lt _ target.infinity_lt
    | finite => exact target.signed_lt _ (target.round_lt _ _)

/-! ## Signs -/

variable {f}

theorem isNegative_signed (negative : Bool) {magnitude : Nat} (small : magnitude < f.signBit) :
    f.isNegative (f.signed negative magnitude) = negative := by
  have positive : 0 < f.signBit := by omega
  cases negative <;> simp [isNegative, signed, Nat.div_eq_of_lt small, positive]

theorem magnitude_signed (negative : Bool) {magnitude : Nat} (small : magnitude < f.signBit) :
    f.magnitude (f.signed negative magnitude) = magnitude := by
  cases negative <;> simp [FloatFormat.magnitude, signed, Nat.mod_eq_of_lt small]

/-- A pattern is its sign and its magnitude. -/
theorem signed_magnitude {bits : Nat} (small : bits < 2 ^ f.width) :
    f.signed (f.isNegative bits) (f.magnitude bits) = bits := by
  have split := Nat.div_add_mod bits f.signBit
  have half : bits / f.signBit < 2 := by
    rw [two_pow_width, Nat.mul_comm] at small
    exact Nat.div_lt_of_lt_mul small
  rw [isNegative, FloatFormat.magnitude, signed]
  interval_cases bits / f.signBit
  · simpa using split
  · simpa using split

/-- The sign does not change whether a pattern is even. -/
theorem signed_mod_two (fractional : 0 < f.fractionBits) (negative : Bool) (magnitude : Nat) :
    f.signed negative magnitude % 2 = magnitude % 2 := by
  have even : f.signBit % 2 = 0 := by
    rw [signBit_eq, show f.exponentBits + f.fractionBits =
      f.exponentBits + (f.fractionBits - 1) + 1 by omega, pow_succ]
    omega
  rw [signed]
  split <;> omega

/-! ## Numbers -/

variable (f)

/-- The number of a magnitude, counted in the smallest positive number of the format. -/
def units (m : Nat) : Nat :=
  if m / 2 ^ f.fractionBits = 0 then m
  else (2 ^ f.fractionBits + m % 2 ^ f.fractionBits) * 2 ^ (m / 2 ^ f.fractionBits - 1)

/-- The number of a magnitude. From infinity on the numbers go on as if the exponent field were
    wider. -/
def grid (m : Nat) : ℚ :=
  f.units m * 2 ^ f.minExponent

/-- The number of a pattern, if it is finite. -/
def number? (bits : Nat) : Option ℚ :=
  (f.decode bits).value?

/-- The number with the given sign and magnitude. -/
def signedGrid (negative : Bool) (m : Nat) : ℚ :=
  if negative then -f.grid m else f.grid m

variable {f}

theorem magnitude_lt_infinity_iff (bits : Nat) :
    f.magnitude bits < f.infinity ↔
      f.magnitude bits / 2 ^ f.fractionBits ≠ 2 ^ f.exponentBits - 1 := by
  have room : 0 < f.signBit := Nat.two_pow_pos _
  have field : f.magnitude bits / 2 ^ f.fractionBits < 2 ^ f.exponentBits := by
    apply Nat.div_lt_of_lt_mul
    rw [← pow_add, Nat.add_comm]
    exact Nat.mod_lt _ room
  rw [infinity_eq, ← Nat.div_lt_iff_lt_mul (by positivity)]
  omega

theorem decode_of_lt {bits : Nat} (finite : f.magnitude bits < f.infinity) :
    ∃ mantissa exponent, f.decode bits = .finite (f.isNegative bits) mantissa exponent ∧
      (mantissa * 2 ^ exponent : ℚ) = f.grid (f.magnitude bits) := by
  rw [decode, grid, units]
  simp only [Nat.pow_eq, if_neg ((magnitude_lt_infinity_iff bits).1 finite)]
  split_ifs with field
  · refine ⟨_, _, rfl, ?_⟩
    rw [Nat.mod_eq_of_lt (Nat.lt_of_div_eq_zero (by positivity) field)]
  · refine ⟨_, _, rfl, ?_⟩
    obtain ⟨k, above⟩ := Nat.exists_eq_succ_of_ne_zero field
    rw [above, zpow_add₀ two_ne_zero, Nat.succ_sub_one, Nat.cast_succ, add_sub_cancel_right,
      zpow_natCast]
    push_cast
    ring

theorem decode_signed (negative : Bool) {m : Nat} (finite : m < f.infinity) :
    ∃ mantissa exponent, f.decode (f.signed negative m) = .finite negative mantissa exponent ∧
      (mantissa * 2 ^ exponent : ℚ) = f.grid m := by
  have small := finite.trans f.infinity_lt
  have decoded := decode_of_lt (f := f) ((magnitude_signed negative small).trans_lt finite)
  rwa [magnitude_signed _ small, isNegative_signed _ small] at decoded

theorem number?_of_le {bits : Nat} (infinite : f.infinity ≤ f.magnitude bits) :
    f.number? bits = none := by
  have top : f.magnitude bits / 2 ^ f.fractionBits = 2 ^ f.exponentBits - 1 :=
    not_not.1 ((magnitude_lt_infinity_iff bits).not.1 (not_lt.2 infinite))
  rw [number?, decode]
  simp only [Nat.pow_eq, if_pos top]
  split <;> rfl

/-- Finite numbers are those below infinity. -/
theorem number?_eq (bits : Nat) :
    f.number? bits =
      if f.magnitude bits < f.infinity then
        some (f.signedGrid (f.isNegative bits) (f.magnitude bits))
      else none := by
  split_ifs with finite
  · obtain ⟨mantissa, exponent, number, value⟩ := decode_of_lt finite
    rw [number?, number, FloatNumber.value?, value, signedGrid]
  · exact number?_of_le (not_lt.1 finite)

theorem number?_signed (negative : Bool) {m : Nat} (finite : m < f.infinity) :
    f.number? (f.signed negative m) = some (f.signedGrid negative m) := by
  obtain ⟨mantissa, exponent, number, value⟩ := decode_signed negative finite
  rw [number?, number, FloatNumber.value?, value, signedGrid]

end FloatFormat

end RegisterMap
