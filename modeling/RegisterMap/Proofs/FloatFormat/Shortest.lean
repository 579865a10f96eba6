import Mathlib.Algebra.Order.Floor.Semifield
import Mathlib.Data.List.DropRight
import RegisterMap.Proofs.FloatFormat.Interval
import RegisterMap.Proofs.Numeral.Index

/-! # The shortest digits round back

The search for a decimal in the interval of a number succeeds, for the grid of the twentieth try is
finer than the interval is wide (`Printable.search_spec`). Hence the digits that are found stand for
a decimal that is rounded to the number they were made from (`nearestMagnitude_shortest`). -/

namespace RegisterMap

/-- The number that the digits stand for. -/
def DecimalDigits.value (d : DecimalDigits) : ℚ :=
  Numeral.ofDigits 10 d.digits * 10 ^ (d.point - d.digits.length)

theorem shiftDecimal_eq (num : Nat) {den : Nat} (positive : 0 < den) (e : Int) :
    0 < (shiftDecimal num den e).2 ∧
      ((shiftDecimal num den e).1 / (shiftDecimal num den e).2 : ℚ) = num / den * 10 ^ e := by
  refine ⟨Nat.mul_pos positive (Nat.pow_pos (by decide)), ?_⟩
  rw [zpow_eq_div, shiftDecimal]
  push_cast [Nat.pow_eq]
  rw [div_mul_div_comm]

/-! ## The decimal point -/

/-- Powers of ten against powers of two, with the logarithm of two as in `decimalPoint`. -/
theorem ten_zpow_le {a b : Int} (less : 100000 * (a + 2) ≤ 30103 * (b + 1)) (low : -2000 ≤ b)
    (high : b ≤ 1300) : (10 : ℚ) ^ a ≤ 2 ^ b := by
  rcases le_or_gt 0 a with nonneg | negative
  · -- A thousand is less than the tenth power of two.
    have cubes : ((10 : ℚ) ^ a) ^ 3 ≤ (2 ^ b) ^ 3 := by
      calc ((10 : ℚ) ^ a) ^ 3 = (1000 : ℚ) ^ a := by
            rw [← zpow_natCast, ← zpow_mul, mul_comm, zpow_mul]
            norm_num
        _ ≤ 1024 ^ a := zpow_le_zpow_left₀ nonneg (by norm_num) (by norm_num)
        _ = 2 ^ (10 * a) := by
            rw [zpow_mul]
            norm_num
        _ ≤ 2 ^ (b * (3 : Nat)) := zpow_le_zpow_right₀ one_le_two (by push_cast; omega)
        _ = (2 ^ b) ^ 3 := by rw [zpow_mul, zpow_natCast]
    exact le_of_pow_le_pow_left₀ (by decide) (by positivity) cubes
  · -- Below one a closer bound is needed.
    have powers : ((2 : ℚ) ^ (-b)) ^ 28 ≤ (10 ^ (-a)) ^ 28 := by
      calc ((2 : ℚ) ^ (-b)) ^ 28 = 2 ^ (-b * (28 : Nat)) := by rw [zpow_mul, zpow_natCast]
        _ ≤ 2 ^ (93 * -a) := zpow_le_zpow_right₀ one_le_two (by push_cast; omega)
        _ = (2 ^ 93) ^ (-a) := by
            rw [zpow_mul]
            norm_num
        _ ≤ (10 ^ 28) ^ (-a) :=
            zpow_le_zpow_left₀ (by omega) (by norm_num) (by norm_num)
        _ = (10 ^ (-a)) ^ 28 := by
            rw [← zpow_natCast, ← zpow_natCast, ← zpow_mul, ← zpow_mul, mul_comm]
    have flipped : (2 : ℚ) ^ (-b) ≤ 10 ^ (-a) :=
      le_of_pow_le_pow_left₀ (by decide) (by positivity) powers
    rwa [zpow_neg, zpow_neg, inv_le_inv₀ (by positivity) (by positivity)] at flipped

/-- No more digits are put before the point than the number has. -/
theorem decimalPoint_le {num den : Nat} (above : 0 < num) (positive : 0 < den)
    (low : (2 : ℚ) ^ (-1200 : Int) ≤ num / den) (high : (num / den : ℚ) ≤ 2 ^ (1200 : Int)) :
    (10 : ℚ) ^ (decimalPoint num den - 1) ≤ num / den := by
  have room : (0 : ℚ) < den := by exact_mod_cast positive
  obtain ⟨below, beyond⟩ := log2_sub_spec above positive
  have decision : ∀ p : Int, (shiftDecimal num den (-p)).2 ≤ (shiftDecimal num den (-p)).1 ↔
      (10 : ℚ) ^ p ≤ num / den := by
    intro p
    rw [zpow_eq_div, div_le_div_iff₀ (by positivity) room, shiftDecimal, neg_neg,
      mul_comm ((10 : ℚ) ^ _)]
    push_cast [Nat.pow_eq]
    exact_mod_cast Iff.rfl
  rw [decimalPoint]
  simp only [decide_eq_true_eq, decision]
  generalize logs : (num.log2 : ℤ) - den.log2 = l at *
  split_ifs with first second third
  · rwa [show l * 30103 / 100000 + 2 - 1 = l * 30103 / 100000 + 1 by ring]
  · rwa [add_sub_cancel_right]
  · exact third
  · -- The estimate is from above, but not by more than two.
    have small : l ≤ 1201 := by
      by_contra large
      have jump : (2 : ℚ) ^ (1200 : Int) < 2 ^ (l - 1) := zpow_lt_zpow_right₀ one_lt_two (by omega)
      linarith
    have large : -1201 ≤ l := by
      by_contra small
      have jump : (2 : ℚ) ^ (l + 1) ≤ 2 ^ (-1200 : Int) := zpow_le_zpow_right₀ one_le_two (by omega)
      linarith
    exact (ten_zpow_le (by omega) (by omega) (by omega)).trans below

/-! ## The search -/

namespace RoundingInterval

variable {i : RoundingInterval} {point : Int} {count n : Nat}

theorem contains_of_withDigits? (found : i.withDigits? point count = some n) :
    i.contains (shiftDecimal n 1 (point - count)).1 (shiftDecimal n 1 (point - count)).2 =
      true := by
  unfold withDigits? at found
  dsimp only at found
  split at found
  · next below above =>
    split_ifs at found <;> cases found
    · exact below
    · exact above
    · rcases Nat.mod_two_eq_zero_or_one
        ((shiftDecimal i.value i.den (-(point - count))).1 /
          (shiftDecimal i.value i.den (-(point - count))).2) with even | odd
      · rwa [even, Nat.add_zero]
      · rwa [odd]
  · next below _ =>
    cases found
    exact below
  · next _ above =>
    cases found
    exact above
  · cases found

/-- A point of a grid between the ends of the interval lies in it. -/
theorem contains_of_between (den : 0 < i.den) {unit : Int} (above : i.number i.low < n * 10 ^ unit)
    (below : (n * 10 ^ unit : ℚ) < i.number i.high) :
    i.contains (shiftDecimal n 1 unit).1 (shiftDecimal n 1 unit).2 = true := by
  obtain ⟨positive, decimal⟩ := shiftDecimal_eq n one_pos unit
  rw [Nat.cast_one, div_one] at decimal
  rw [contains_iff den _ positive, decimal]
  split
  · exact ⟨above.le, below.le⟩
  · exact ⟨above, below⟩

/-- The whole part counts the units that fit into a number. -/
theorem whole_units {a b : Nat} {x unit : ℚ} (step : 0 < unit) (shifted : (a / b : ℚ) = x / unit) :
    (a / b : Nat) * unit ≤ x ∧ x < (a / b + 1 : Nat) * unit := by
  have nonneg : 0 ≤ x / unit := shifted ▸ by positivity
  have whole : ⌊x / unit⌋₊ = a / b := by rw [← shifted, Nat.floor_div_eq_div]
  rw [← le_div_iff₀ step, ← div_lt_iff₀ step, ← whole, Nat.cast_add_one]
  exact ⟨Nat.floor_le nonneg, Nat.lt_floor_add_one _⟩

/-- A grid that is finer than the interval reaches above the value has a point in it. -/
theorem exists_withDigits? (den : 0 < i.den) (low : i.number i.low < i.number i.value)
    (fine : i.number i.value + 10 ^ (point - count) ≤ i.number i.high) :
    ∃ n, i.withDigits? point count = some n := by
  obtain ⟨-, shifted⟩ := shiftDecimal_eq i.value den (-(point - count))
  rw [zpow_neg, ← div_eq_mul_inv, ← number] at shifted
  have step : (0 : ℚ) < 10 ^ (point - count) := by positivity
  obtain ⟨before, behind⟩ := whole_units step shifted
  unfold withDigits?
  dsimp only
  generalize (shiftDecimal i.value i.den (-(point - count))).1 = a at *
  generalize (shiftDecimal i.value i.den (-(point - count))).2 = b at *
  -- The value is a point of the grid, or the next point is less than a step above it.
  have hit : i.contains (shiftDecimal (a / b) 1 (point - count)).1
        (shiftDecimal (a / b) 1 (point - count)).2 = true ∨
      i.contains (shiftDecimal (a / b + 1) 1 (point - count)).1
        (shiftDecimal (a / b + 1) 1 (point - count)).2 = true := by
    rcases before.eq_or_lt with onGrid | before
    · exact .inl (contains_of_between den (by linarith) (by linarith))
    · exact .inr (contains_of_between den (by linarith) (by push_cast; linarith))
  split
  · split_ifs <;> exact ⟨_, rfl⟩
  · exact ⟨_, rfl⟩
  · exact ⟨_, rfl⟩
  · next noneBelow noneAbove =>
    rw [noneBelow, noneAbove] at hit
    simp at hit

theorem search_spec {fuel : Nat}
    (hit : ∃ j < fuel, ∃ n, i.withDigits? point (count + j) = some n) :
    ∃ c n, i.search point fuel count = (c, n) ∧ i.withDigits? point c = some n := by
  induction fuel generalizing count with
  | zero =>
    obtain ⟨j, less, -⟩ := hit
    omega
  | succ fuel ih =>
    rw [search]
    cases found : i.withDigits? point count with
    | some n => exact ⟨count, n, rfl, found⟩
    | none =>
      obtain ⟨j, less, n, later⟩ := hit
      have behind : j ≠ 0 := by
        rintro rfl
        rw [Nat.add_zero, found] at later
        cases later
      refine ih ⟨j - 1, by omega, n, ?_⟩
      rwa [show count + 1 + (j - 1) = count + j by omega]

end RoundingInterval

/-! ## The digits -/

/-- At least one decimal digit, the first of them no zero. -/
structure DecimalDigits.Proper (d : DecimalDigits) : Prop where
  nonempty : d.digits ≠ []
  decimal : ∀ x ∈ d.digits, x < 10
  leading : d.digits.head? ≠ some 0

theorem exists_zeros (ds : List Nat) :
    ∃ count, ds = dropTrailingZeros ds ++ List.replicate count 0 := by
  have split : ds.rdropWhile (· == 0) ++ ds.rtakeWhile (· == 0) = ds :=
    List.rdropWhile_append_rtakeWhile
  have zeros : ds.rtakeWhile (· == 0) = List.replicate (ds.rtakeWhile (· == 0)).length 0 := by
    apply List.eq_replicate_of_mem
    intro d member
    simpa using List.mem_rtakeWhile_imp member
  refine ⟨(ds.rtakeWhile (· == 0)).length, ?_⟩
  rw [← zeros]
  exact split.symm

/-- The digits of a positive number, without the zeros at their end, stand for that number. -/
theorem digits_spec {n : Nat} (positive : 0 < n) (unit : Int) :
    DecimalDigits.Proper
        ⟨dropTrailingZeros (Numeral.digits 10 n), unit + (Numeral.digits 10 n).length⟩ ∧
      DecimalDigits.value
        ⟨dropTrailingZeros (Numeral.digits 10 n), unit + (Numeral.digits 10 n).length⟩ =
          n * 10 ^ unit := by
  have number : Numeral.ofDigits 10 (Numeral.digits 10 n) = n :=
    Numeral.ofDigits_digits (by decide) n
  have small : ∀ d ∈ Numeral.digits 10 n, d < 10 := Numeral.digits_lt (by decide) n
  obtain ⟨first, rest, all, leading⟩ : ∃ d ds, Numeral.digits 10 n = d :: ds ∧ d ≠ 0 :=
    Numeral.digitsOnto_head (by decide) positive (Nat.lt_succ_self n)
  obtain ⟨count, zeros⟩ := exists_zeros (Numeral.digits 10 n)
  generalize Numeral.digits 10 n = ds at *
  generalize dropTrailingZeros ds = kept at *
  have nonempty : kept ≠ [] := by
    rintro rfl
    rw [List.nil_append, all] at zeros
    exact leading (List.eq_of_mem_replicate (zeros ▸ List.mem_cons_self))
  refine ⟨⟨nonempty, ?_, ?_⟩, ?_⟩
  · intro d member
    exact small d (zeros ▸ List.mem_append_left _ member)
  · have same : kept.head? = some first := by
      rw [← List.head?_append_of_ne_nil _ nonempty, ← zeros, all, List.head?_cons]
    rw [same]
    simpa using leading
  · have whole : n = Numeral.ofDigits 10 kept * 10 ^ count := by
      rw [← number, zeros, Numeral.ofDigits_append, Numeral.ofDigits_replicate, Nat.add_zero,
        List.length_replicate]
    have length : (ds.length : ℤ) = kept.length + count := by
      rw [zeros, List.length_append, List.length_replicate, Nat.cast_add]
    rw [DecimalDigits.value, whole, length]
    dsimp only
    rw [show unit + (kept.length + count : ℤ) - kept.length = count + unit by ring,
      zpow_add₀ (by norm_num), zpow_natCast]
    push_cast
    ring

namespace FloatFormat

variable {f : FloatFormat}

/-- Twenty digits are enough for the format, and the estimate of the decimal point is good enough
    for its range. -/
structure Printable (f : FloatFormat) : Prop where
  fractional : 0 < f.fractionBits
  digits : 2 ^ (f.fractionBits + 2) ≤ 10 ^ 19
  least : -1200 ≤ f.minExponent
  greatest : f.fractionBits + 2 ^ f.exponentBits + f.minExponent ≤ 1200

theorem Printable.range (printable : f.Printable) {m : Nat} (positive : 0 < m)
    (finite : m < f.infinity) :
    (2 : ℚ) ^ (-1200 : Int) ≤ f.grid m ∧ f.grid m ≤ 2 ^ (1200 : Int) := by
  constructor
  · have first : f.grid 1 = 2 ^ f.minExponent := by
      have number := f.grid_run (k := 0) (show 1 ≤ 2 * 2 ^ f.fractionBits by
        have := Nat.one_le_two_pow (n := f.fractionBits)
        omega) (.inl rfl)
      simpa using number
    calc (2 : ℚ) ^ (-1200 : Int) ≤ 2 ^ f.minExponent :=
          zpow_le_zpow_right₀ one_le_two printable.least
      _ = f.grid 1 := first.symm
      _ ≤ f.grid m := f.grid_strictMono.monotone positive
  · have fields : 2 ≤ 2 ^ f.exponentBits := by
      by_contra small
      have one : 2 ^ f.exponentBits = 1 := by
        have := Nat.one_le_two_pow (n := f.exponentBits)
        omega
      rw [infinity_eq, one] at finite
      omega
    have top : f.infinity =
        (2 ^ f.exponentBits - 2) * 2 ^ f.fractionBits + 2 ^ f.fractionBits := by
      rw [infinity_eq, ← Nat.add_one_mul]
      congr 1
      omega
    calc f.grid m ≤ f.grid f.infinity := f.grid_strictMono.monotone finite.le
      _ = 2 ^ (f.fractionBits + (2 ^ f.exponentBits - 2 : Nat) + f.minExponent) := by
          rw [top, f.grid_run_start]
      _ ≤ 2 ^ (1200 : Int) := by
          have greatest := printable.greatest
          apply zpow_le_zpow_right₀ one_le_two
          push_cast [fields]
          omega

section

variable {i : RoundingInterval} {k t : Nat} {p : Int}

/-- The twentieth grid is finer than the way from a number to the end of its interval. -/
theorem Printable.fine (printable : f.Printable)
    (interval : f.IsInterval (k * 2 ^ f.fractionBits + t) i) (high : t < 2 * 2 ^ f.fractionBits)
    (low : k = 0 ∨ 2 ^ f.fractionBits ≤ t) (point : (10 : ℚ) ^ (p - 1) ≤ i.number i.value) :
    i.number i.value + 10 ^ (p - (1 + 19 : Nat)) ≤ i.number i.high := by
  have shift : (10 : ℚ) ^ (p - 1) = 10 ^ (p - (1 + 19 : Nat)) * 10 ^ 19 := by
    rw [← zpow_natCast, ← zpow_add₀ (by norm_num)]
    congr 1
    push_cast
    ring
  have short : (4 * 2 ^ f.fractionBits : ℚ) ≤ 10 ^ 19 := by
    have digits := printable.digits
    rw [pow_add] at digits
    exact_mod_cast (show 4 * 2 ^ f.fractionBits ≤ 10 ^ 19 by omega)
  have below : (t : ℚ) < 2 * 2 ^ f.fractionBits := by exact_mod_cast high
  rw [interval.value, f.grid_run high.le low, shift] at point
  rw [interval.value, interval.high, f.grid_run high.le low, Nat.add_assoc,
    f.grid_run (by omega) (low.imp_right fun h => by omega)]
  have room : (0 : ℚ) < 2 ^ (f.minExponent + k) := by positivity
  generalize (10 : ℚ) ^ (p - (1 + 19 : Nat)) = step at *
  generalize (2 : ℚ) ^ (f.minExponent + k) = unit at *
  rw [Nat.cast_add_one]
  linarith [mul_le_mul_of_nonneg_right short room.le, mul_lt_mul_of_pos_right below room]

/-- The search in the interval of a number does not run out of tries. -/
theorem Printable.search_spec (printable : f.Printable)
    (interval : f.IsInterval (k * 2 ^ f.fractionBits + t) i) (positive : 0 < t)
    (high : t < 2 * 2 ^ f.fractionBits) (low : k = 0 ∨ 2 ^ f.fractionBits ≤ t)
    (finite : k * 2 ^ f.fractionBits + t < f.infinity) :
    ∃ count n, i.search (decimalPoint i.value i.den) 20 1 = (count, n) ∧
      i.withDigits? (decimalPoint i.value i.den) count = some n := by
  obtain ⟨least, greatest⟩ := printable.range (by omega) finite
  rw [← interval.value] at least greatest
  have above : 0 < i.value := by
    apply Nat.pos_of_ne_zero
    intro zero
    rw [RoundingInterval.number, zero, Nat.cast_zero, zero_div] at least
    have positive : (0 : ℚ) < 2 ^ (-1200 : Int) := by positivity
    linarith
  have point := decimalPoint_le above interval.den least greatest
  have inside : i.number i.low < i.number i.value := by
    have before := f.grid_strictMono
      (show k * 2 ^ f.fractionBits + t - 1 < k * 2 ^ f.fractionBits + t by omega)
    rw [interval.low, interval.value]
    linarith
  exact RoundingInterval.search_spec ⟨19, by decide, RoundingInterval.exists_withDigits?
    interval.den inside (printable.fine interval high low point)⟩

/-- The shortest digits of a positive number stand for a decimal that is rounded to that number. -/
theorem nearestMagnitude_shortest (printable : f.Printable) (positive : 0 < t)
    (high : t < 2 * 2 ^ f.fractionBits) (low : k = 0 ∨ 2 ^ f.fractionBits ≤ t)
    (finite : k * 2 ^ f.fractionBits + t < f.infinity) :
    (f.shortest t (f.minExponent + k)).Proper ∧
      f.NearestMagnitude (f.shortest t (f.minExponent + k)).value
        (k * 2 ^ f.fractionBits + t) := by
  have interval := isInterval printable.fractional positive high low
  obtain ⟨count, n, found, hit⟩ := printable.search_spec interval positive high low finite
  rw [shortest, if_neg positive.ne']
  dsimp only
  generalize f.interval t (f.minExponent + k) = i at *
  rw [found]
  obtain ⟨room, decimal⟩ := shiftDecimal_eq n one_pos (decimalPoint i.value i.den - count)
  have nearest := interval.nearestMagnitude (by omega) room
    (RoundingInterval.contains_of_withDigits? hit)
  rw [decimal, Nat.cast_one, div_one] at nearest
  -- The decimal is not zero, which is rounded to another number.
  have some : 0 < n := by
    apply Nat.pos_of_ne_zero
    rintro rfl
    rw [Nat.cast_zero, zero_mul, ← f.grid_zero] at nearest
    have same := nearest.unique (.of_grid 0)
    omega
  obtain ⟨proper, value⟩ := digits_spec some (decimalPoint i.value i.den - count)
  exact ⟨proper, value.symm ▸ nearest⟩

end

end FloatFormat

end RegisterMap
