import RegisterMap.Proofs.FloatFormat.Pattern

/-! # The numbers of a floating-point format

The magnitudes of a format are in the order of their numbers. In units of the smallest number they
come in runs: in run `k` the numbers are the multiples of `2 ^ k`, and above the first run they
start at `2 ^ (k + fractionBits)` (`units_run`, `exists_run`). So every whole number that is not
longer than a fraction and its leading bit is a number of the format, at every scale
(`exists_grid_eq`). -/

namespace RegisterMap.FloatFormat

variable (f : FloatFormat)

/-! ## Runs of magnitudes -/

/-- The numbers of run `k` and the first one behind it. -/
theorem units_run {k t : Nat} (high : t ≤ 2 * 2 ^ f.fractionBits)
    (low : k = 0 ∨ 2 ^ f.fractionBits ≤ t) :
    f.units (k * 2 ^ f.fractionBits + t) = t * 2 ^ k := by
  have room : 0 < 2 ^ f.fractionBits := by positivity
  rw [units]
  generalize 2 ^ f.fractionBits = one at *
  rcases lt_or_ge t one with small | large
  · obtain rfl : k = 0 := low.resolve_right (by omega)
    rw [Nat.zero_mul, Nat.zero_add, Nat.div_eq_of_lt small, if_pos rfl, pow_zero, Nat.mul_one]
  · obtain ⟨rest, rfl⟩ := Nat.exists_eq_add_of_le large
    rw [show k * one + (one + rest) = rest + (k + 1) * one by ring,
      Nat.add_mul_div_right _ _ room, Nat.add_mul_mod_self_right]
    rcases Nat.lt_or_ge rest one with inside | behind
    · rw [Nat.div_eq_of_lt inside, Nat.mod_eq_of_lt inside, if_neg (by omega), Nat.zero_add,
        Nat.add_sub_cancel]
    · obtain rfl : rest = one := by omega
      rw [Nat.div_self room, Nat.mod_self, if_neg (by omega), Nat.add_zero,
        show 1 + (k + 1) - 1 = k + 1 by omega, pow_succ]
      ring

theorem exists_run (m : Nat) :
    ∃ k t, m = k * 2 ^ f.fractionBits + t ∧ t < 2 * 2 ^ f.fractionBits ∧
      (k = 0 ∨ 2 ^ f.fractionBits ≤ t) := by
  have room : 0 < 2 ^ f.fractionBits := by positivity
  have split := Nat.div_add_mod' m (2 ^ f.fractionBits)
  have rest := Nat.mod_lt m room
  cases field : m / 2 ^ f.fractionBits with
  | zero =>
    rw [field] at split
    exact ⟨0, m, by omega, by omega, .inl rfl⟩
  | succ k =>
    rw [field, Nat.add_one_mul] at split
    exact ⟨k, 2 ^ f.fractionBits + m % 2 ^ f.fractionBits, by omega, by omega, .inr (by omega)⟩

theorem units_strictMono : StrictMono f.units := by
  apply strictMono_nat_of_lt_succ
  intro m
  obtain ⟨k, t, rfl, high, low⟩ := f.exists_run m
  rw [Nat.add_assoc, f.units_run high.le low,
    f.units_run (by omega) (low.imp_right fun h => by omega)]
  have step : 0 < 2 ^ k := by positivity
  exact Nat.mul_lt_mul_of_pos_right (by omega) step

/-- Seen from run `k`, a number is a multiple of its step or lies before it. -/
theorem units_cases (k m : Nat) :
    (∃ s, f.units m = s * 2 ^ k) ∨ 0 < k ∧ f.units m < 2 ^ f.fractionBits * 2 ^ k := by
  obtain ⟨l, t, rfl, high, low⟩ := f.exists_run m
  rw [f.units_run high.le low]
  rcases Nat.lt_or_ge l k with before | behind
  · right
    refine ⟨by omega, ?_⟩
    calc t * 2 ^ l < 2 * 2 ^ f.fractionBits * 2 ^ l := by gcongr
      _ = 2 ^ f.fractionBits * 2 ^ (l + 1) := by ring
      _ ≤ 2 ^ f.fractionBits * 2 ^ k := by gcongr <;> omega
  · left
    obtain ⟨d, rfl⟩ := Nat.exists_eq_add_of_le behind
    exact ⟨t * 2 ^ d, by rw [pow_add]; ring⟩

/-- With a number, its double is one of the format. -/
theorem exists_units_double (m : Nat) : ∃ p, f.units p = 2 * f.units m := by
  obtain ⟨k, t, rfl, high, low⟩ := f.exists_run m
  rw [f.units_run high.le low]
  rcases Nat.lt_or_ge t (2 ^ f.fractionBits) with small | large
  · obtain rfl : k = 0 := low.resolve_right (by omega)
    refine ⟨0 * 2 ^ f.fractionBits + 2 * t, ?_⟩
    rw [f.units_run (by omega) (.inl rfl)]
    ring
  · refine ⟨(k + 1) * 2 ^ f.fractionBits + t, ?_⟩
    rw [f.units_run high.le (.inr large), pow_succ]
    ring

theorem exists_units_eq {n : Nat} (short : n ≤ 2 * 2 ^ f.fractionBits) (d : Nat) :
    ∃ p, f.units p = n * 2 ^ d := by
  induction d with
  | zero => exact ⟨0 * 2 ^ f.fractionBits + n, f.units_run short (.inl rfl)⟩
  | succ d ih =>
    obtain ⟨m, half⟩ := ih
    obtain ⟨p, double⟩ := f.exists_units_double m
    exact ⟨p, by rw [double, half, pow_succ]; ring⟩

/-! ## Numbers -/

theorem unit_pos : (0 : ℚ) < 2 ^ f.minExponent := by
  positivity

/-- In run `k` the numbers are the multiples of one power of two. -/
theorem grid_run {k t : Nat} (high : t ≤ 2 * 2 ^ f.fractionBits)
    (low : k = 0 ∨ 2 ^ f.fractionBits ≤ t) :
    f.grid (k * 2 ^ f.fractionBits + t) = t * 2 ^ (f.minExponent + k) := by
  rw [grid, f.units_run high low, zpow_add₀ two_ne_zero, zpow_natCast]
  push_cast
  ring

theorem grid_strictMono : StrictMono f.grid := by
  intro m n less
  have units : (f.units m : ℚ) < f.units n := by exact_mod_cast f.units_strictMono less
  exact mul_lt_mul_of_pos_right units f.unit_pos

theorem grid_zero : f.grid 0 = 0 := by
  have zero := f.grid_run (k := 0) (t := 0) (by omega) (.inl rfl)
  rwa [Nat.zero_mul, Nat.cast_zero, zero_mul] at zero

theorem grid_nonneg (m : Nat) : 0 ≤ f.grid m := by
  rw [← f.grid_zero]
  exact f.grid_strictMono.monotone m.zero_le

theorem exists_grid_eq {n : Nat} (short : n ≤ 2 * 2 ^ f.fractionBits) {e : Int}
    (coarse : f.minExponent ≤ e) : ∃ p, f.grid p = n * 2 ^ e := by
  obtain ⟨d, rfl⟩ := Int.exists_add_of_le coarse
  obtain ⟨p, number⟩ := f.exists_units_eq short d
  refine ⟨p, ?_⟩
  rw [grid, number, zpow_add₀ two_ne_zero, zpow_natCast]
  push_cast
  ring

/-- The first number of a run is a power of two. -/
theorem grid_run_start (k : Nat) :
    f.grid (k * 2 ^ f.fractionBits + 2 ^ f.fractionBits) =
      2 ^ (f.fractionBits + k + f.minExponent) := by
  rw [f.grid_run (by omega) (.inr le_rfl), Nat.cast_pow, Nat.cast_ofNat, ← zpow_natCast,
    ← zpow_add₀ two_ne_zero]
  congr 1
  ring

/-- A number of the format, and the one behind it, as whole numbers of one length and scale. -/
theorem grid_succ_cases (m : Nat) :
    ∃ (t : Nat) (e : Int), t < 2 * 2 ^ f.fractionBits ∧ f.minExponent ≤ e ∧
      f.grid m = t * 2 ^ e ∧ f.grid (m + 1) = (t + 1 : Nat) * 2 ^ e := by
  obtain ⟨k, t, rfl, high, low⟩ := f.exists_run m
  refine ⟨t, f.minExponent + k, high, by omega, f.grid_run high.le low, ?_⟩
  rw [Nat.add_assoc, f.grid_run (by omega) (low.imp_right fun h => by omega)]

end RegisterMap.FloatFormat
