import RegisterMap.FloatFormat.Shortest
import RegisterMap.Proofs.FloatFormat.Conversion

/-! # The interval of a floating-point number

The interval of a number ends in the middles between it and its neighbours (`isInterval`), so
whatever lies in it is rounded to that number (`IsInterval.nearestMagnitude`). -/

namespace RegisterMap

namespace RoundingInterval

/-- The number at an end of an interval or inside it. -/
def number (i : RoundingInterval) (n : Nat) : ℚ :=
  n / i.den

theorem contains_iff {i : RoundingInterval} (positive : 0 < i.den) (num : Nat) {den : Nat}
    (room : 0 < den) :
    i.contains num den = true ↔
      if i.closed then i.number i.low ≤ num / den ∧ (num / den : ℚ) ≤ i.number i.high
      else i.number i.low < num / den ∧ (num / den : ℚ) < i.number i.high := by
  have left : (0 : ℚ) < i.den := by exact_mod_cast positive
  have right : (0 : ℚ) < den := by exact_mod_cast room
  simp only [number, div_le_div_iff₀ left right, div_le_div_iff₀ right left,
    div_lt_div_iff₀ left right, div_lt_div_iff₀ right left, contains]
  split
  · simp only [Bool.and_eq_true, decide_eq_true_eq]
    exact_mod_cast Iff.rfl
  · simp only [Bool.and_eq_true, decide_eq_true_eq]
    exact_mod_cast Iff.rfl

end RoundingInterval

namespace FloatFormat

variable {f : FloatFormat}

theorem decode_run {bits k t : Nat} (place : f.magnitude bits = k * 2 ^ f.fractionBits + t)
    (finite : f.magnitude bits < f.infinity) (high : t < 2 * 2 ^ f.fractionBits)
    (low : k = 0 ∨ 2 ^ f.fractionBits ≤ t) :
    f.decode bits = .finite (f.isNegative bits) t (f.minExponent + k) := by
  have room : 0 < 2 ^ f.fractionBits := by positivity
  have top := (magnitude_lt_infinity_iff bits).1 finite
  rw [place] at top
  rw [decode]
  simp only [Nat.pow_eq, place, if_neg top]
  generalize 2 ^ f.fractionBits = one at *
  rcases Nat.lt_or_ge t one with small | large
  · obtain rfl : k = 0 := low.resolve_right (by omega)
    simp [Nat.div_eq_of_lt small, Nat.mod_eq_of_lt small]
  · obtain ⟨rest, rfl⟩ := Nat.exists_eq_add_of_le large
    have inside : rest < one := by omega
    have field : (k * one + (one + rest)) / one = k + 1 := by
      rw [show k * one + (one + rest) = rest + (k + 1) * one by ring,
        Nat.add_mul_div_right _ _ room, Nat.div_eq_of_lt inside, Nat.zero_add]
    have fraction : (k * one + (one + rest)) % one = rest := by
      rw [show k * one + (one + rest) = rest + (k + 1) * one by ring,
        Nat.add_mul_mod_self_right, Nat.mod_eq_of_lt inside]
    simp [field, fraction]

/-- What lies between the middles of a number and its neighbours is rounded to it. -/
theorem nearestMagnitude_of_between {m : Nat} {x : ℚ} (positive : 0 < m)
    (low : (f.grid (m - 1) + f.grid m) / 2 ≤ x) (high : x ≤ (f.grid m + f.grid (m + 1)) / 2)
    (ends : m % 2 = 0 ∨
      (f.grid (m - 1) + f.grid m) / 2 < x ∧ x < (f.grid m + f.grid (m + 1)) / 2) :
    f.NearestMagnitude x m := by
  have before := f.grid_strictMono (show m - 1 < m by omega)
  have behind := f.grid_strictMono (show m < m + 1 by omega)
  intro q other
  rcases Nat.lt_or_ge q m with less | more
  · have far := f.grid_strictMono.monotone (show q ≤ m - 1 by omega)
    rw [abs_of_nonneg (show (0 : ℚ) ≤ x - f.grid q by linarith)]
    rcases abs_cases (x - f.grid m) with ⟨same, -⟩ | ⟨same, -⟩ <;> rw [same]
    · exact .inl (by linarith)
    · rcases ends with even | ⟨inside, -⟩
      · rcases lt_or_eq_of_le (show -(x - f.grid m) ≤ x - f.grid q by linarith) with nearer | tie
        · exact .inl nearer
        · exact .inr ⟨tie, even⟩
      · exact .inl (by linarith)
  · have far := f.grid_strictMono.monotone (show m + 1 ≤ q by omega)
    rw [abs_of_nonpos (show x - f.grid q ≤ 0 by linarith)]
    rcases abs_cases (x - f.grid m) with ⟨same, -⟩ | ⟨same, -⟩ <;> rw [same]
    · rcases ends with even | ⟨-, inside⟩
      · rcases lt_or_eq_of_le (show x - f.grid m ≤ -(x - f.grid q) by linarith) with nearer | tie
        · exact .inl nearer
        · exact .inr ⟨tie, even⟩
      · exact .inl (by linarith)
    · exact .inl (by linarith)

/-- The interval of a number ends in the middles between it and its neighbours. -/
structure IsInterval (f : FloatFormat) (m : Nat) (i : RoundingInterval) : Prop where
  den : 0 < i.den
  value : i.number i.value = f.grid m
  low : i.number i.low = (f.grid (m - 1) + f.grid m) / 2
  high : i.number i.high = (f.grid m + f.grid (m + 1)) / 2
  closed : i.closed = (m % 2 == 0)

section

variable {k t : Nat}

/-- The number before another; before a power of two the numbers lie twice as close. -/
theorem grid_pred (positive : 0 < t) (high : t < 2 * 2 ^ f.fractionBits)
    (low : k = 0 ∨ 2 ^ f.fractionBits ≤ t) :
    f.grid (k * 2 ^ f.fractionBits + t - 1) =
      (t - if t = 2 ^ f.fractionBits ∧ 0 < k then 1 / 2 else 1) * 2 ^ (f.minExponent + k) := by
  split_ifs with start
  · obtain ⟨rfl, later⟩ := start
    obtain ⟨j, rfl⟩ := Nat.exists_eq_add_of_lt later
    have room : 1 ≤ 2 ^ f.fractionBits := Nat.one_le_two_pow
    have before : (0 + j + 1) * 2 ^ f.fractionBits + 2 ^ f.fractionBits - 1 =
        j * 2 ^ f.fractionBits + (2 * 2 ^ f.fractionBits - 1) := by
      rw [Nat.zero_add, Nat.add_one_mul]
      omega
    have double : (2 : ℚ) ^ (f.minExponent + (0 + j + 1 : Nat)) = 2 * 2 ^ (f.minExponent + j) := by
      rw [Nat.zero_add, Nat.cast_add_one, ← add_assoc, zpow_add_one₀ two_ne_zero, mul_comm]
    rw [before, f.grid_run (by omega) (.inr (by omega)), double, Nat.cast_sub (by omega)]
    push_cast
    ring
  · have before : k * 2 ^ f.fractionBits + t - 1 = k * 2 ^ f.fractionBits + (t - 1) := by omega
    rw [before, f.grid_run (by omega) (by omega), Nat.cast_sub (by omega), Nat.cast_one]

theorem number_interval (n : Nat) :
    (f.interval t (f.minExponent + k)).number (n * (scaled 1 (f.minExponent + k - 2)).1) =
      n / 4 * 2 ^ (f.minExponent + k) := by
  obtain ⟨-, unit⟩ := scaled_eq 1 (f.minExponent + k - 2)
  have quarter : (2 : ℚ) ^ (f.minExponent + k - 2) = 2 ^ (f.minExponent + k) / 4 := by
    rw [zpow_sub₀ two_ne_zero]
    norm_num
  rw [Nat.cast_one, one_mul, quarter] at unit
  rw [div_mul_eq_mul_div, mul_div_assoc, ← unit, RoundingInterval.number]
  push_cast
  exact mul_div_assoc _ _ _

theorem isInterval (fractional : 0 < f.fractionBits) (positive : 0 < t)
    (high : t < 2 * 2 ^ f.fractionBits) (low : k = 0 ∨ 2 ^ f.fractionBits ≤ t) :
    f.IsInterval (k * 2 ^ f.fractionBits + t) (f.interval t (f.minExponent + k)) where
  den := (scaled_eq 1 _).1
  value := by
    refine (number_interval (4 * t)).trans ?_
    rw [f.grid_run high.le low]
    push_cast
    ring
  low := by
    refine (number_interval (4 * t - _)).trans ?_
    rw [f.grid_run high.le low, grid_pred positive high low, Nat.pow_eq]
    simp only [lt_add_iff_pos_right, Int.natCast_pos]
    split_ifs
    · rw [Nat.cast_sub (by omega)]
      push_cast
      ring
    · rw [Nat.cast_sub (by omega)]
      push_cast
      ring
  high := by
    refine (number_interval (4 * t + 2)).trans ?_
    rw [f.grid_run high.le low, Nat.add_assoc,
      f.grid_run (by omega) (low.imp_right fun h => by omega)]
    push_cast
    ring
  closed := by
    obtain ⟨n, bits⟩ := Nat.exists_eq_succ_of_ne_zero fractional.ne'
    have parity : (k * 2 ^ f.fractionBits + t) % 2 = t % 2 := by
      rw [bits, pow_succ, ← Nat.mul_assoc]
      omega
    rw [parity]
    rfl

end

/-- What lies in the interval of a number is rounded to it. -/
theorem IsInterval.nearestMagnitude {m num den : Nat} {i : RoundingInterval}
    (interval : f.IsInterval m i) (positive : 0 < m) (room : 0 < den)
    (inside : i.contains num den = true) : f.NearestMagnitude (num / den) m := by
  rw [RoundingInterval.contains_iff interval.den num room, interval.low, interval.high,
    interval.closed] at inside
  split at inside
  · next even =>
    exact nearestMagnitude_of_between positive inside.1 inside.2 (.inl (by simpa using even))
  · exact nearestMagnitude_of_between positive inside.1.le inside.2.le (.inr inside)

end FloatFormat

end RegisterMap
