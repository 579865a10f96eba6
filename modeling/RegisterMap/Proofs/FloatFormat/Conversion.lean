import RegisterMap.Proofs.FloatFormat.Nearest

/-! # Rounding twice

A number that is rounded to a wide format and from there to a narrow one does not always become
what it is rounded to at once. The two results differ only if the first rounding ends exactly midway
between two numbers of the narrow format (`narrowed`): the second one then takes the even of the
two, while the number itself lies nearer to the odd one. -/

namespace RegisterMap

/-! ## Numbers as quotients -/

theorem scaled_eq (n : Nat) (e : Int) :
    0 < (scaled n e).2 ∧ ((scaled n e).1 / (scaled n e).2 : ℚ) = n * 2 ^ e := by
  refine ⟨Nat.two_pow_pos _, ?_⟩
  rw [zpow_eq_div, scaled]
  push_cast [Nat.pow_eq]
  rw [mul_div_assoc]

namespace FloatFormat

variable {source target wide narrow f : FloatFormat}

/-- The number is above the largest one of the format. -/
theorem exceeds_iff (finite : 0 < f.infinity) (mantissa : Nat) (exponent : Int) :
    f.exceeds mantissa exponent = true ↔ f.grid (f.infinity - 1) < mantissa * 2 ^ exponent := by
  obtain ⟨top, topExponent, number, value⟩ :=
    f.decode_signed false (show f.infinity - 1 < f.infinity by omega)
  rw [signed, if_neg Bool.false_ne_true] at number
  obtain ⟨positive, quotient⟩ := scaled_eq mantissa (exponent - topExponent)
  have scale : (0 : ℚ) < 2 ^ topExponent := by positivity
  rw [exceeds, number, ← value]
  simp only [decide_eq_true_eq]
  rw [show (mantissa * 2 ^ exponent : ℚ) = mantissa * 2 ^ (exponent - topExponent) *
      2 ^ topExponent by rw [mul_assoc, ← zpow_add₀ two_ne_zero, sub_add_cancel],
    mul_lt_mul_iff_left₀ scale, ← quotient, lt_div_iff₀ (by exact_mod_cast positive)]
  exact_mod_cast Iff.rfl

/-- A finite number is converted by rounding it. -/
theorem convert_signed (different : source ≠ target) (negative : Bool) {m : Nat}
    (finite : m < source.infinity) :
    ∃ num den : Nat, 0 < den ∧ (num / den : ℚ) = source.grid m ∧
      source.convert target (source.signed negative m) =
        target.signed negative (target.round num den) := by
  obtain ⟨mantissa, exponent, number, value⟩ := source.decode_signed negative finite
  obtain ⟨positive, quotient⟩ := scaled_eq mantissa exponent
  refine ⟨_, _, positive, quotient.trans value, ?_⟩
  rw [convert, if_neg different, number, isNegative_signed _ (finite.trans source.infinity_lt)]

/-! ## Midpoints -/

/-- Every number of the narrow format, and the middle of two neighbours, is one of the wide. -/
structure Refines (wide narrow : FloatFormat) : Prop where
  longer : narrow.fractionBits < wide.fractionBits
  finer : wide.minExponent < narrow.minExponent

theorem Refines.exists_midpoint (refines : wide.Refines narrow) (m : Nat) :
    ∃ p, 2 * wide.grid p = narrow.grid m + narrow.grid (m + 1) := by
  obtain ⟨t, e, short, coarse, number, next⟩ := narrow.grid_succ_cases m
  have room : 2 * 2 ^ narrow.fractionBits ≤ 2 ^ wide.fractionBits := by
    rw [← pow_succ']
    exact Nat.pow_le_pow_right two_pos refines.longer
  obtain ⟨p, middle⟩ := wide.exists_grid_eq (n := 2 * t + 1) (by omega) (e := e - 1)
    (by have finer := refines.finer; omega)
  refine ⟨p, ?_⟩
  rw [middle, number, next, zpow_sub_one₀ two_ne_zero]
  push_cast
  ring

namespace NearestMagnitude

variable {x : ℚ} {p q r : Nat}

theorem le_midpoint (nearest : f.NearestMagnitude x p) (above : p < q) :
    2 * x ≤ f.grid p + f.grid q := by
  have less := f.grid_strictMono above
  have distance := nearest.distance_le q
  rcases abs_cases (x - f.grid p) with ⟨h₁, s₁⟩ | ⟨h₁, s₁⟩ <;>
    rcases abs_cases (x - f.grid q) with ⟨h₂, s₂⟩ | ⟨h₂, s₂⟩ <;> linarith

theorem midpoint_le (nearest : f.NearestMagnitude x p) (below : q < p) :
    f.grid q + f.grid p ≤ 2 * x := by
  have less := f.grid_strictMono below
  have distance := nearest.distance_le q
  rcases abs_cases (x - f.grid p) with ⟨h₁, s₁⟩ | ⟨h₁, s₁⟩ <;>
    rcases abs_cases (x - f.grid q) with ⟨h₂, s₂⟩ | ⟨h₂, s₂⟩ <;> linarith

theorem not_between_left (nearest : f.NearestMagnitude x p) (above : f.grid p < f.grid q) :
    x < f.grid q := by
  by_contra! reached
  have distance := nearest.distance_le q
  rw [abs_of_nonneg (by linarith), abs_of_nonneg (by linarith)] at distance
  linarith

theorem not_between_right (nearest : f.NearestMagnitude x p) (below : f.grid q < f.grid p) :
    f.grid q < x := by
  by_contra! reached
  have distance := nearest.distance_le q
  rw [abs_of_nonpos (by linarith), abs_of_nonpos (by linarith)] at distance
  linarith

/-- Rounding twice gives what rounding once gives, unless the first rounding ends midway between
    the two results; then the number itself is nearer to the one that it is rounded to at once. -/
theorem narrowed (refines : wide.Refines narrow) (first : wide.NearestMagnitude x p)
    (second : narrow.NearestMagnitude (wide.grid p) q) (once : narrow.NearestMagnitude x r) :
    q = r ∨ 2 * wide.grid p = narrow.grid q + narrow.grid r ∧
      |x - narrow.grid r| < |x - narrow.grid q| := by
  rcases eq_or_ne x (wide.grid p) with exact | inexact
  · rw [← exact] at second
    exact .inl (second.unique once)
  -- The wide number and `x` lie on either side of the middle between `r` and its neighbour towards
  -- `q`. That middle is a wide number too, so the first rounding has ended there.
  rcases lt_trichotomy q r with below | same | above
  · right
    obtain ⟨s, rfl⟩ : ∃ s, r = s + 1 := ⟨r - 1, by omega⟩
    obtain ⟨m, middle⟩ := refines.exists_midpoint s
    have toward : narrow.grid q ≤ narrow.grid s := narrow.grid_strictMono.monotone (by omega)
    have left := second.le_midpoint below
    have right := once.midpoint_le (Nat.lt_succ_self s)
    have reached : wide.grid m ≤ wide.grid p := by
      by_contra! between
      have beyond := first.not_between_left between
      linarith
    have less := narrow.grid_strictMono below
    have beyond : wide.grid p < x := lt_of_le_of_ne (by linarith) inexact.symm
    refine ⟨by linarith, lt_of_lt_of_le (abs_lt.2 ⟨?_, ?_⟩) (le_abs_self _)⟩ <;> linarith
  · exact .inl same
  · right
    obtain ⟨m, middle⟩ := refines.exists_midpoint r
    have toward : narrow.grid (r + 1) ≤ narrow.grid q := narrow.grid_strictMono.monotone above
    have left := once.le_midpoint (Nat.lt_succ_self r)
    have right := second.midpoint_le above
    have reached : wide.grid p ≤ wide.grid m := by
      by_contra! between
      have beyond := first.not_between_right between
      linarith
    have less := narrow.grid_strictMono above
    have beyond : x < wide.grid p := lt_of_le_of_ne (by linarith) inexact
    refine ⟨by linarith, lt_of_lt_of_le (abs_lt.2 ⟨?_, ?_⟩) (neg_le_abs _)⟩ <;> linarith

end NearestMagnitude

end FloatFormat

end RegisterMap
