import RegisterMap.Proofs.FloatFormat.Grid

/-! # Rounding gives the nearest number

`Nearest` says which pattern an exact number is rounded to: that of the number of the format at the
least distance, and the even one of two at the same distance. `NearestMagnitude` says it for
magnitudes, where the numbers above infinity take part as well; `round` gives the nearest
magnitude, unless that is cut off at infinity (`round_eq_min`). -/

namespace RegisterMap

/-! ## Whole numbers -/

/-- The whole number is the nearest to `x`, and even if another one is as near. -/
structure NearestWhole (x : ℚ) (t : Nat) : Prop where
  within : |x - t| ≤ 1 / 2
  even : |x - t| = 1 / 2 → t % 2 = 0

namespace NearestWhole

variable {x : ℚ} {t : Nat}

theorem nearer (nearest : NearestWhole x t) {s : Nat} (other : s ≠ t) :
    |x - t| < |x - s| ∨ |x - t| = |x - s| ∧ t % 2 = 0 := by
  have apart : (1 : ℚ) ≤ |(s : ℚ) - t| := by
    have whole : 1 ≤ |(s : ℤ) - t| := Int.one_le_abs (by omega)
    exact_mod_cast whole
  have triangle : |(s : ℚ) - t| ≤ |x - s| + |x - t| := by
    rw [abs_sub_comm x s]
    simpa using abs_sub_le (s : ℚ) x t
  rcases nearest.within.lt_or_eq with inside | tie
  · left
    linarith
  · rcases lt_or_eq_of_le (show |x - t| ≤ |x - s| by linarith) with less | same
    · exact .inl less
    · exact .inr ⟨same, nearest.even tie⟩

theorem le_of_le (nearest : NearestWhole x t) {n : Nat} (bound : x ≤ n) : t ≤ n := by
  have low := (abs_le.1 nearest.within).1
  have less : (t : ℚ) < (n + 1 : Nat) := by
    push_cast
    linarith
  exact Nat.lt_succ_iff.1 (by exact_mod_cast less)

theorem ge_of_ge (nearest : NearestWhole x t) {n : Nat} (bound : (n : ℚ) ≤ x) : n ≤ t := by
  have high := (abs_le.1 nearest.within).2
  have less : (n : ℚ) < (t + 1 : Nat) := by
    push_cast
    linarith
  exact Nat.lt_succ_iff.1 (by exact_mod_cast less)

end NearestWhole

theorem NearestWhole.of_lt {x : ℚ} {t : Nat} (inside : |x - t| < 1 / 2) : NearestWhole x t :=
  ⟨inside.le, fun tie => absurd tie inside.ne⟩

theorem roundDiv_nearest (n : Nat) {d : Nat} (positive : 0 < d) :
    NearestWhole (n / d) (roundDiv n d) := by
  have room : (0 : ℚ) < d := by exact_mod_cast positive
  have whole : (n : ℚ) = (n / d : Nat) * d + (n % d : Nat) := by
    exact_mod_cast (Nat.div_add_mod' n d).symm
  have bound : n % d < d := Nat.mod_lt n positive
  simp only [roundDiv]
  generalize n / d = quotient at *
  generalize n % d = rest at *
  have parts : (n : ℚ) / d = quotient + rest / d := by
    rw [whole, add_div, mul_div_cancel_right₀ _ room.ne']
  have below : (0 : ℚ) ≤ rest / d := by positivity
  have above : (rest : ℚ) / d < 1 := (div_lt_one room).2 (by exact_mod_cast bound)
  rw [parts]
  rcases lt_trichotomy (2 * rest) d with small | tie | large
  · have less : (rest : ℚ) / d < 1 / 2 := by
      rw [div_lt_div_iff₀ room two_pos, one_mul, mul_comm]
      exact_mod_cast small
    rw [if_pos small]
    apply NearestWhole.of_lt
    rw [add_sub_cancel_left, abs_lt]
    constructor <;> linarith
  · have half : (rest : ℚ) / d = 1 / 2 := by
      rw [div_eq_div_iff room.ne' two_ne_zero, one_mul, mul_comm]
      exact_mod_cast tie
    rw [if_neg (by omega), if_neg (by omega), half]
    refine ⟨?_, fun _ => by omega⟩
    rcases Nat.mod_two_eq_zero_or_one quotient with even | odd
    · rw [even, Nat.add_zero, add_sub_cancel_left, abs_le]
      norm_num
    · rw [odd, Nat.cast_add_one, add_sub_add_left_eq_sub, abs_le]
      norm_num
  · have more : 1 / 2 < (rest : ℚ) / d := by
      rw [div_lt_div_iff₀ two_pos room, one_mul, mul_comm (rest : ℚ)]
      exact_mod_cast large
    rw [if_neg (by omega), if_pos large]
    apply NearestWhole.of_lt
    rw [Nat.cast_add_one, add_sub_add_left_eq_sub, abs_lt]
    constructor <;> linarith

/-! ## Powers -/

/-- A power as the quotient that integer arithmetic takes it for. -/
theorem zpow_eq_div (b : ℚ) (e : Int) : b ^ e = b ^ e.toNat / b ^ (-e).toNat := by
  rcases le_total 0 e with nonneg | nonpos
  · obtain ⟨n, rfl⟩ := Int.eq_ofNat_of_zero_le nonneg
    simp
  · obtain ⟨n, same⟩ := Int.eq_ofNat_of_zero_le (Int.neg_nonneg.2 nonpos)
    obtain rfl : e = -n := by omega
    simp

/-- The logarithms of a quotient's terms bound it within a factor of four. -/
theorem log2_sub_spec {num den : Nat} (above : 0 < num) (positive : 0 < den) :
    (2 : ℚ) ^ ((num.log2 : ℤ) - den.log2 - 1) ≤ num / den ∧
      (num / den : ℚ) < 2 ^ ((num.log2 : ℤ) - den.log2 + 1) := by
  have room : (0 : ℚ) < den := by exact_mod_cast positive
  have numLow : (2 : ℚ) ^ (num.log2 : ℤ) ≤ num := by
    exact_mod_cast Nat.log2_self_le above.ne'
  have numHigh : (num : ℚ) < 2 ^ ((num.log2 : ℤ) + 1) := by
    exact_mod_cast Nat.lt_log2_self (n := num)
  have denLow : (2 : ℚ) ^ (den.log2 : ℤ) ≤ den := by
    exact_mod_cast Nat.log2_self_le positive.ne'
  have denHigh : (den : ℚ) < 2 ^ ((den.log2 : ℤ) + 1) := by
    exact_mod_cast Nat.lt_log2_self (n := den)
  constructor
  · rw [le_div_iff₀ room]
    calc (2 : ℚ) ^ ((num.log2 : ℤ) - den.log2 - 1) * den
        ≤ 2 ^ ((num.log2 : ℤ) - den.log2 - 1) * 2 ^ ((den.log2 : ℤ) + 1) := by gcongr
      _ = 2 ^ (num.log2 : ℤ) := by
        rw [← zpow_add₀ two_ne_zero]
        congr 1
        omega
      _ ≤ num := numLow
  · rw [div_lt_iff₀ room]
    calc (num : ℚ) < 2 ^ ((num.log2 : ℤ) + 1) := numHigh
      _ = 2 ^ ((num.log2 : ℤ) - den.log2 + 1) * 2 ^ (den.log2 : ℤ) := by
        rw [← zpow_add₀ two_ne_zero]
        congr 1
        omega
      _ ≤ 2 ^ ((num.log2 : ℤ) - den.log2 + 1) * den := by gcongr

theorem binaryExponent_spec {num den : Nat} (above : 0 < num) (positive : 0 < den) :
    (2 : ℚ) ^ binaryExponent num den ≤ num / den ∧
      (num / den : ℚ) < 2 ^ (binaryExponent num den + 1) := by
  have room : (0 : ℚ) < den := by exact_mod_cast positive
  obtain ⟨low, high⟩ := log2_sub_spec above positive
  have decision : ∀ e : Int, den * 2 ^ e.toNat ≤ num * 2 ^ (-e).toNat ↔
      (2 : ℚ) ^ e ≤ num / den := by
    intro e
    rw [zpow_eq_div, div_le_div_iff₀ (by positivity) room, mul_comm den]
    exact_mod_cast Iff.rfl
  rw [binaryExponent]
  simp only [Nat.pow_eq, decision]
  split_ifs with reached
  · exact ⟨reached, high⟩
  · exact ⟨low, by rw [sub_add_cancel]; exact not_le.1 reached⟩

namespace FloatFormat

variable {f : FloatFormat}

/-! ## Magnitudes -/

/-- The number of the magnitude is the nearest to `x` of the format, and the magnitude is even if
    the number of another one is as near. -/
def NearestMagnitude (f : FloatFormat) (x : ℚ) (p : Nat) : Prop :=
  ∀ q, q ≠ p →
    |x - f.grid p| < |x - f.grid q| ∨ |x - f.grid p| = |x - f.grid q| ∧ p % 2 = 0

namespace NearestMagnitude

variable {x : ℚ} {p : Nat}

theorem distance_le (nearest : f.NearestMagnitude x p) (q : Nat) :
    |x - f.grid p| ≤ |x - f.grid q| := by
  rcases eq_or_ne q p with rfl | other
  · exact le_rfl
  · exact (nearest q other).elim le_of_lt fun tie => tie.1.le

/-- No number of the format stands between `x` and the one it is rounded to. -/
theorem grid_le (nearest : f.NearestMagnitude x p) {q : Nat} (bound : x ≤ f.grid q) :
    f.grid p ≤ f.grid q := by
  by_contra! between
  have distance := nearest.distance_le q
  rw [abs_of_nonpos (by linarith), abs_of_nonpos (by linarith)] at distance
  linarith

/-- Two magnitudes cannot both be nearest: they would be even, and so one stands between them. -/
theorem not_lt (nearest : f.NearestMagnitude x p) {q : Nat} (other : f.NearestMagnitude x q) :
    ¬ p < q := by
  intro less
  have even : p % 2 = 0 ∧ q % 2 = 0 ∧ |x - f.grid p| = |x - f.grid q| := by
    rcases nearest q less.ne' with nearer | ⟨same, evenLeft⟩
    · exact absurd (other.distance_le p) (not_le.2 nearer)
    · rcases other p less.ne with nearer | ⟨-, evenRight⟩
      · exact absurd (nearest.distance_le q) (not_le.2 nearer)
      · exact ⟨evenLeft, evenRight, same⟩
  have left := f.grid_strictMono (show p < p + 1 by omega)
  have right := f.grid_strictMono (show p + 1 < q by omega)
  have between := nearest.distance_le (p + 1)
  have tie := even.2.2
  rcases abs_cases (x - f.grid p) with ⟨h₁, s₁⟩ | ⟨h₁, s₁⟩ <;>
    rcases abs_cases (x - f.grid q) with ⟨h₂, s₂⟩ | ⟨h₂, s₂⟩ <;>
    rcases abs_cases (x - f.grid (p + 1)) with ⟨h₃, s₃⟩ | ⟨h₃, s₃⟩ <;> linarith

theorem unique (nearest : f.NearestMagnitude x p) {q : Nat} (other : f.NearestMagnitude x q) :
    p = q :=
  le_antisymm (Nat.not_lt.1 (other.not_lt nearest)) (Nat.not_lt.1 (nearest.not_lt other))

theorem of_grid (p : Nat) : f.NearestMagnitude (f.grid p) p := by
  intro q other
  left
  rw [sub_self, abs_zero, abs_pos, sub_ne_zero]
  exact fun same => other (f.grid_strictMono.injective same).symm

end NearestMagnitude

/-- In the run of `x`, the nearest multiple of the step is the nearest number of the format. -/
theorem nearestMagnitude_of_run (fractional : 0 < f.fractionBits) {k t : Nat} {x : ℚ}
    (high : t ≤ 2 * 2 ^ f.fractionBits) (low : k = 0 ∨ 2 ^ f.fractionBits ≤ t)
    (start : k = 0 ∨ 2 ^ f.fractionBits * 2 ^ (f.minExponent + k) ≤ x)
    (nearest : NearestWhole (x / 2 ^ (f.minExponent + k)) t) :
    f.NearestMagnitude x (k * 2 ^ f.fractionBits + t) := by
  have scaled : (2 : ℚ) ^ (f.minExponent + k) = 2 ^ k * 2 ^ f.minExponent := by
    rw [zpow_add₀ two_ne_zero, zpow_natCast, mul_comm]
  have positive : (0 : ℚ) < 2 ^ (f.minExponent + k) := by positivity
  have number := f.grid_run high low
  have parity : (k * 2 ^ f.fractionBits + t) % 2 = t % 2 := by
    obtain ⟨n, bits⟩ := Nat.exists_eq_succ_of_ne_zero fractional.ne'
    rw [bits, pow_succ, ← Nat.mul_assoc]
    omega
  have distance : ∀ s : Nat, |x - s * 2 ^ (f.minExponent + k)| =
      |x / 2 ^ (f.minExponent + k) - s| * 2 ^ (f.minExponent + k) := by
    intro s
    rw [← abs_of_pos positive, ← abs_mul, abs_of_pos positive, sub_mul,
      div_mul_cancel₀ _ positive.ne']
  have multiples : ∀ s : Nat, s ≠ t →
      |x - t * 2 ^ (f.minExponent + k)| < |x - s * 2 ^ (f.minExponent + k)| ∨
      |x - t * 2 ^ (f.minExponent + k)| = |x - s * 2 ^ (f.minExponent + k)| ∧ t % 2 = 0 := by
    intro s other
    rw [distance, distance]
    rcases nearest.nearer other with less | ⟨same, even⟩
    · exact .inl (mul_lt_mul_of_pos_right less positive)
    · exact .inr ⟨by rw [same], even⟩
  intro q other
  rw [number, parity]
  rcases f.units_cases k q with ⟨s, multiple⟩ | ⟨above, before⟩
  · have numberOther : f.grid q = s * 2 ^ (f.minExponent + k) := by
      rw [grid, multiple, scaled]
      push_cast
      ring
    rw [numberOther]
    apply multiples
    rintro rfl
    exact other (f.grid_strictMono.injective (numberOther.trans number.symm))
  · -- The start of the run stands between that number and `x`.
    left
    have start := start.resolve_left above.ne'
    have numberOther : f.grid q < 2 ^ f.fractionBits * 2 ^ (f.minExponent + k) := by
      rw [grid, scaled, ← mul_assoc]
      exact mul_lt_mul_of_pos_right (by exact_mod_cast before) f.unit_pos
    have nearStart : |x - t * 2 ^ (f.minExponent + k)| ≤
        |x - (2 ^ f.fractionBits : Nat) * 2 ^ (f.minExponent + k)| := by
      rcases eq_or_ne (2 ^ f.fractionBits) t with rfl | different
      · exact le_rfl
      · exact (multiples _ different).elim le_of_lt fun tie => tie.1.le
    refine nearStart.trans_lt ?_
    push_cast
    rw [abs_of_nonneg (by linarith), abs_of_nonneg (by linarith)]
    linarith

/-- Rounding gives the nearest magnitude, or infinity if that is not below it. -/
theorem round_eq_min (fractional : 0 < f.fractionBits) (num : Nat) {den : Nat}
    (positive : 0 < den) :
    ∃ p, f.NearestMagnitude (num / den) p ∧ f.round num den = min p f.infinity := by
  rcases Nat.eq_zero_or_pos num with rfl | above
  · refine ⟨0, ?_, by rw [round, if_pos rfl, Nat.zero_min]⟩
    rw [Nat.cast_zero, zero_div, ← f.grid_zero]
    exact .of_grid 0
  · obtain ⟨low, high⟩ := binaryExponent_spec above positive
    obtain ⟨unit, chosen⟩ : ∃ unit,
        unit = max (binaryExponent num den - f.fractionBits) f.minExponent := ⟨_, rfl⟩
    obtain ⟨k, run⟩ : ∃ k : Nat, unit = f.minExponent + k :=
      ⟨(unit - f.minExponent).toNat, by omega⟩
    have nearest : NearestWhole (num / den / 2 ^ unit)
        (roundDiv (num * 2 ^ (-unit).toNat) (den * 2 ^ unit.toNat)) := by
      have quotient : (num / den / 2 ^ unit : ℚ) =
          (num * 2 ^ (-unit).toNat : Nat) / (den * 2 ^ unit.toNat : Nat) := by
        rw [zpow_eq_div, div_div_eq_mul_div, div_mul_eq_mul_div, div_div]
        push_cast
        rfl
      rw [quotient]
      exact roundDiv_nearest _ (by positivity)
    have scale : (0 : ℚ) < 2 ^ unit := by positivity
    have short : (num / den / 2 ^ unit : ℚ) ≤ (2 * 2 ^ f.fractionBits : Nat) := by
      rw [div_le_iff₀ scale]
      calc (num / den : ℚ) ≤ 2 ^ (binaryExponent num den + 1) := high.le
        _ ≤ 2 ^ (f.fractionBits + 1 + unit) := zpow_le_zpow_right₀ one_le_two (by omega)
        _ = (2 * 2 ^ f.fractionBits : Nat) * 2 ^ unit := by
          rw [zpow_add₀ two_ne_zero, zpow_add₀ two_ne_zero, zpow_natCast]
          push_cast
          ring
    have start : k = 0 ∨ 2 ^ f.fractionBits * 2 ^ unit ≤ (num / den : ℚ) := by
      rcases Nat.eq_zero_or_pos k with none | some
      · exact .inl none
      · right
        calc 2 ^ f.fractionBits * 2 ^ unit = (2 : ℚ) ^ (f.fractionBits + unit) := by
              rw [zpow_add₀ two_ne_zero, zpow_natCast]
          _ ≤ 2 ^ binaryExponent num den := zpow_le_zpow_right₀ one_le_two (by omega)
          _ ≤ num / den := low
    have long : k = 0 ∨ 2 ^ f.fractionBits ≤
        roundDiv (num * 2 ^ (-unit).toNat) (den * 2 ^ unit.toNat) := by
      refine start.imp_right fun reached => nearest.ge_of_ge ?_
      rw [le_div_iff₀ scale]
      push_cast
      exact reached
    refine ⟨_, nearestMagnitude_of_run fractional (nearest.le_of_le short) long (run ▸ start)
      (run ▸ nearest), ?_⟩
    rw [round, if_neg above.ne']
    simp only [Nat.pow_eq, ← chosen]
    rw [show (unit - f.minExponent).toNat = k by omega]

/-- What is at most a finite number is rounded to a finite one. -/
theorem round_nearest (fractional : 0 < f.fractionBits) (num : Nat) {den : Nat}
    (positive : 0 < den) {top : Nat} (finite : top < f.infinity)
    (bound : (num / den : ℚ) ≤ f.grid top) :
    f.NearestMagnitude (num / den) (f.round num den) ∧ f.round num den < f.infinity := by
  obtain ⟨p, nearest, rounded⟩ := round_eq_min fractional num positive
  have below : p < f.infinity :=
    (f.grid_strictMono.le_iff_le.1 (nearest.grid_le bound)).trans_lt finite
  rw [rounded, min_eq_left below.le]
  exact ⟨nearest, below⟩

/-! ## Patterns -/

/-- The pattern is one of the number nearest to `x`, and even if another number is as near. -/
def Nearest (f : FloatFormat) (x : ℚ) (bits : Nat) : Prop :=
  ∃ y, f.number? bits = some y ∧ ∀ other z, f.number? other = some z → z ≠ y →
    |x - y| < |x - z| ∨ |x - y| = |x - z| ∧ bits % 2 = 0

theorem abs_sub_signedGrid (negative : Bool) (a : ℚ) (m : Nat) :
    |(if negative then -a else a) - f.signedGrid negative m| = |a - f.grid m| := by
  cases negative
  · rfl
  · rw [signedGrid, if_pos rfl, if_pos rfl, neg_sub_neg, abs_sub_comm]

theorem abs_sub_signedGrid_not {a : ℚ} (nonneg : 0 ≤ a) (negative : Bool) (m : Nat) :
    |(if negative then -a else a) - f.signedGrid (!negative) m| = a + f.grid m := by
  have room := f.grid_nonneg m
  cases negative
  · rw [signedGrid, if_neg Bool.false_ne_true, Bool.not_false, if_pos rfl, sub_neg_eq_add,
      abs_of_nonneg (by linarith)]
  · rw [signedGrid, if_pos rfl, Bool.not_true, if_neg Bool.false_ne_true,
      abs_of_nonpos (by linarith)]
    ring

/-- With the sign of the exact number, the nearest magnitude is the nearest pattern. -/
theorem NearestMagnitude.signed (fractional : 0 < f.fractionBits) {a : ℚ} (nonneg : 0 ≤ a) {p : Nat}
    (nearest : f.NearestMagnitude a p) (finite : p < f.infinity) (negative : Bool) :
    f.Nearest (if negative then -a else a) (f.signed negative p) := by
  refine ⟨_, number?_signed negative finite, fun other z number different => ?_⟩
  rw [signed_mod_two fractional, abs_sub_signedGrid]
  rw [number?_eq] at number
  split at number
  · obtain rfl := Option.some.inj number
    rcases Bool.eq_or_eq_not (f.isNegative other) negative with same | opposite
    · rw [same] at different ⊢
      rw [abs_sub_signedGrid]
      apply nearest
      intro equal
      exact different (by rw [equal])
    · -- A number of the other sign is farther than zero, and zero is not nearer.
      rw [opposite, abs_sub_signedGrid_not nonneg]
      have room := f.grid_nonneg (f.magnitude other)
      have zero : |a - f.grid p| < a ∨ |a - f.grid p| = a ∧ p % 2 = 0 := by
        rcases eq_or_ne p 0 with rfl | some
        · rw [f.grid_zero, sub_zero, abs_of_nonneg nonneg]
          exact .inr ⟨rfl, rfl⟩
        · have least := nearest 0 some.symm
          rwa [f.grid_zero, sub_zero, abs_of_nonneg nonneg] at least
      rcases zero with less | ⟨same, even⟩
      · exact .inl (by linarith)
      · rcases room.lt_or_eq with far | none
        · exact .inl (by linarith)
        · exact .inr ⟨by linarith, even⟩
  · cases number

end FloatFormat

end RegisterMap
