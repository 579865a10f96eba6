import RegisterMap.FloatFormat.Text
import RegisterMap.Proofs.FloatFormat.Shortest
import RegisterMap.Proofs.Numeral.Constant

/-! # Printed floating-point numbers

The text of a finite number is a constant expression. In both notations it reads as the decimal of
its digits (`literalNumber?_magnitude`), and that decimal is rounded to the number that was printed
(`constantNumber?_render`). -/

namespace RegisterMap

open Numeral

namespace FloatLayout

theorem exponentNumber?_signed (width : Nat) (e : Int) :
    exponentNumber? ('e' :: (if e < 0 then '-' else '+') ::
      zeroPadded width (chars 10 e.natAbs)) = some e := by
  have read := digitsNumber?_zeroPadded (by decide : 2 ≤ 10) (by decide) width e.natAbs
  split_ifs with negative
  · rw [exponentNumber?, read, Option.map_some]
    congr 1
    omega
  · rw [exponentNumber?, read, Option.map_some]
    congr 1
    omega

variable {digits : List Nat} {point : Int}

theorem literalNumber?_withExponent (layout : FloatLayout)
    (proper : DecimalDigits.Proper ⟨digits, point⟩) :
    literalNumber? (layout.withExponent ⟨digits, point⟩) =
      some (DecimalDigits.value ⟨digits, point⟩) := by
  obtain ⟨nonempty, small, -⟩ := proper
  obtain ⟨first, rest, rfl⟩ := List.exists_cons_of_ne_nil nonempty
  have text : layout.withExponent ⟨first :: rest, point⟩ =
      [first].map digitChar ++ (pointed (rest.map digitChar) ++
        'e' :: (if point - 1 < 0 then '-' else '+') ::
          zeroPadded layout.exponentDigits (chars 10 (point - 1).natAbs)) := by
    cases rest <;> rfl
  rw [text, literalNumber?_parts (List.cons_ne_nil _ _) small (exponentNumber?_signed _ _)
    (by simp), DecimalDigits.value]
  simp only [List.singleton_append, List.length_cons, Nat.cast_add, Nat.cast_one]
  rw [sub_sub, add_comm (1 : ℤ)]

/-! ## Plain notation -/

section

variable (nonempty : digits ≠ []) (small : ∀ d ∈ digits, d < 10)

include nonempty small

/-- All digits stand behind the point. -/
theorem literalNumber?_plain_of_nonpos (below : point ≤ 0) :
    literalNumber? (plain ⟨digits, point⟩) = some (DecimalDigits.value ⟨digits, point⟩) := by
  have text : plain ⟨digits, point⟩ = [0].map digitChar ++
      pointed ((List.replicate (-point).toNat 0 ++ digits).map digitChar) := by
    have zero : digitChar 0 = '0' := rfl
    simp [plain, below, pointed, nonempty, zero]
  have decimal : ∀ d ∈ [0] ++ (List.replicate (-point).toNat 0 ++ digits), d < 10 := by
    simp only [List.mem_append, List.mem_singleton, List.mem_replicate]
    rintro d (rfl | ⟨-, rfl⟩ | member)
    · decide
    · decide
    · exact small d member
  rw [text, Numeral.literalNumber?_plain (by simp) decimal (by simp [nonempty]),
    ← List.append_assoc, ← List.replicate_one, ← List.replicate_add, ofDigits_replicate_zero,
    DecimalDigits.value]
  congr 3
  simp only [List.length_append, List.length_replicate]
  omega

/-- The point stands between two digits. -/
theorem literalNumber?_plain_of_inside {p : Nat} (positive : 0 < p) (inside : p < digits.length) :
    literalNumber? (plain ⟨digits, p⟩) = some (DecimalDigits.value ⟨digits, p⟩) := by
  have front : digits.take p ≠ [] := by
    simp only [ne_eq, List.take_eq_nil_iff, nonempty, or_false]
    omega
  have behind : digits.drop p ≠ [] := by simpa using inside
  have text : plain ⟨digits, p⟩ =
      (digits.take p).map digitChar ++ pointed ((digits.drop p).map digitChar) := by
    obtain ⟨d, ds, rest⟩ := List.exists_cons_of_ne_nil behind
    simp [plain, positive.ne', pointed, ← List.map_drop, ← List.map_take, rest, inside.le]
  rw [text, Numeral.literalNumber?_plain front (by simpa using small)
    fun none => absurd none behind, List.take_append_drop, DecimalDigits.value]
  congr 3
  simp only [List.length_drop]
  omega

/-- Zeros fill up the digits to the point, and the first of them is still none. -/
theorem literalNumber?_plain_of_beyond {p : Nat} (leading : digits.head? ≠ some 0)
    (positive : 0 < p) (beyond : digits.length ≤ p) :
    literalNumber? (plain ⟨digits, p⟩) = some (DecimalDigits.value ⟨digits, p⟩) := by
  have text : plain ⟨digits, p⟩ =
      (digits ++ List.replicate (p - digits.length) 0).map digitChar ++
        pointed (List.map digitChar []) := by
    simp [plain, positive.ne', pointed, replicate_zero_eq_map, beyond, List.drop_eq_nil_of_le,
      List.take_of_length_le]
  have decimal : ∀ d ∈ digits ++ List.replicate (p - digits.length) 0 ++ [], d < 10 := by
    simp only [List.mem_append, List.not_mem_nil, or_false, List.mem_replicate]
    rintro d (member | ⟨-, rfl⟩)
    · exact small d member
    · decide
  have first : (digits ++ List.replicate (p - digits.length) 0).head? ≠ some 0 := by
    rwa [List.head?_append_of_ne_nil _ nonempty]
  rw [text, Numeral.literalNumber?_plain (by simp [nonempty]) decimal
    fun _ zero => absurd zero first, List.append_nil, ofDigits_append, ofDigits_replicate,
    List.length_replicate, DecimalDigits.value]
  dsimp only
  rw [← Int.natCast_sub beyond, zpow_natCast]
  simp

end

theorem literalNumber?_plain (proper : DecimalDigits.Proper ⟨digits, point⟩) :
    literalNumber? (plain ⟨digits, point⟩) = some (DecimalDigits.value ⟨digits, point⟩) := by
  obtain ⟨nonempty, small, leading⟩ := proper
  rcases le_or_gt point 0 with below | above
  · exact literalNumber?_plain_of_nonpos nonempty small below
  · obtain ⟨p, rfl⟩ := Int.eq_ofNat_of_zero_le above.le
    rcases Nat.lt_or_ge p digits.length with inside | beyond
    · exact literalNumber?_plain_of_inside nonempty small (by omega) inside
    · exact literalNumber?_plain_of_beyond nonempty small leading (by omega) beyond

/-! ## Finite numbers -/

theorem literalNumber?_magnitude (layout : FloatLayout) {d : DecimalDigits} (proper : d.Proper) :
    literalNumber? (layout.magnitude d) = some d.value := by
  rw [magnitude]
  split_ifs
  · exact literalNumber?_withExponent layout proper
  · exact literalNumber?_plain proper

variable {f : FloatFormat}

/-- The text of a finite number is a constant that is rounded to that number. -/
theorem constantNumber?_render (layout : FloatLayout) (printable : f.Printable) {bits : Nat}
    (finite : f.magnitude bits < f.infinity) :
    ∃ q : ℚ, constantNumber? (layout.render f bits).toList =
        some (if f.isNegative bits then -q else q) ∧
      0 ≤ q ∧ f.NearestMagnitude q (f.magnitude bits) := by
  obtain ⟨k, t, place, high, low⟩ := f.exists_run (f.magnitude bits)
  rw [render, FloatFormat.decode_run place finite high low]
  obtain ⟨q, read, nonneg, nearest⟩ : ∃ q : ℚ,
      literalNumber? (layout.magnitude (f.shortest t (f.minExponent + k))) = some q ∧
        0 ≤ q ∧ f.NearestMagnitude q (f.magnitude bits) := by
    rcases Nat.eq_zero_or_pos t with rfl | positive
    · have zero : f.magnitude bits = 0 := by
        have room : 0 < 2 ^ f.fractionBits := by positivity
        obtain rfl : k = 0 := low.resolve_right (by omega)
        rw [place, Nat.zero_mul]
      have text : layout.magnitude (f.shortest 0 (f.minExponent + k)) = chars 10 0 := rfl
      refine ⟨0, by rw [text, literalNumber?_decimal, Nat.cast_zero], le_rfl, ?_⟩
      rw [zero, ← f.grid_zero]
      exact .of_grid 0
    · rw [place] at finite ⊢
      obtain ⟨proper, nearest⟩ := FloatFormat.nearestMagnitude_shortest printable positive high low
        finite
      exact ⟨_, literalNumber?_magnitude layout proper, by unfold DecimalDigits.value; positivity,
        nearest⟩
  refine ⟨q, ?_, nonneg, nearest⟩
  dsimp only
  rw [String.toList_ofList]
  split_ifs
  · rw [constantNumber?, read, Option.map_some]
  · exact constantNumber?_of_literal read

end FloatLayout

end RegisterMap
