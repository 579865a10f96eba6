import Mathlib.Tactic
import RegisterMap.Value.Basic

/-! # Two's complement

`signedOfBits width` maps the patterns of `width` bits one to one to the numbers from
`-2 ^ (width - 1)` up to `2 ^ (width - 1) - 1`; the way back is the remainder modulo `2 ^ width`. -/

namespace RegisterMap.Value

variable {width : Nat}

theorem signedOfBits_eq (width bits : Nat) :
    signedOfBits width bits =
      if 2 ^ (width - 1) ≤ bits then (bits : Int) - 2 ^ width else bits := by
  simp only [signedOfBits, Nat.pow_eq, Nat.cast_pow, Nat.cast_ofNat]

theorem two_pow_eq_add_half (positive : 0 < width) :
    (2 : Int) ^ width = 2 ^ (width - 1) + 2 ^ (width - 1) := by
  rw [← two_mul, ← pow_succ', Nat.sub_add_cancel positive]

/-- The number of a pattern is congruent to the pattern. -/
theorem signedOfBits_emod {bits : Nat} (small : bits < 2 ^ width) :
    signedOfBits width bits % 2 ^ width = bits := by
  have reduced : (bits : Int) % 2 ^ width = bits :=
    Int.emod_eq_of_lt (by positivity) (by exact_mod_cast small)
  rw [signedOfBits_eq]
  split
  · rw [Int.sub_emod_right, reduced]
  · exact reduced

theorem signedOfBits_range (positive : 0 < width) {bits : Nat} (small : bits < 2 ^ width) :
    -2 ^ (width - 1) ≤ signedOfBits width bits ∧ signedOfBits width bits < 2 ^ (width - 1) := by
  have half := two_pow_eq_add_half positive
  have below : (bits : Int) < 2 ^ width := by exact_mod_cast small
  rw [signedOfBits_eq]
  split
  · next high =>
    have upper : (2 : Int) ^ (width - 1) ≤ bits := by exact_mod_cast high
    constructor <;> omega
  · next low =>
    have lower : (bits : Int) < 2 ^ (width - 1) := by exact_mod_cast Nat.not_le.1 low
    constructor <;> omega

/-- A number of the range is the number of its own remainder. -/
theorem signedOfBits_toNat_emod (positive : 0 < width) {i : Int}
    (above : -2 ^ (width - 1) ≤ i) (below : i < 2 ^ (width - 1)) :
    signedOfBits width (i % 2 ^ width).toNat = i := by
  have half := two_pow_eq_add_half positive
  have modulus : (0 : Int) < 2 ^ width := by positivity
  have pattern : ((i % 2 ^ width).toNat : Int) = i % 2 ^ width :=
    Int.toNat_of_nonneg (Int.emod_nonneg i modulus.ne')
  have small : (i % 2 ^ width).toNat < 2 ^ width := by
    zify
    rw [pattern]
    exact Int.emod_lt_of_pos i modulus
  -- Both numbers are in the range and congruent, so a multiple of the modulus that is smaller
  -- than the modulus lies between them.
  have congruent : signedOfBits width (i % 2 ^ width).toNat ≡ i [ZMOD 2 ^ width] := by
    rw [Int.ModEq, signedOfBits_emod small, pattern]
  obtain ⟨low, high⟩ := signedOfBits_range positive small
  have apart : |i - signedOfBits width (i % 2 ^ width).toNat| < 2 ^ width := by
    rw [abs_lt]
    constructor <;> omega
  have none := Int.eq_zero_of_abs_lt_dvd congruent.dvd apart
  omega

end RegisterMap.Value
