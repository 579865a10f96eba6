import Mathlib.Tactic
import RegisterMap.Numeral.Digits

/-! # Numbers and their digits

The digits of a number are below the base, spell the number, and are no more than a bound on the
number allows. Zeros in front do not change what digits spell, so a number that fits a width is the
number that its digits spell after they are filled up to the width (`zeroPadded_chars`). -/

namespace RegisterMap.Numeral

/-! ## The loop -/

theorem digitsOnto_lt {base : Nat} (large : 2 ≤ base) {fuel n : Nat} {acc : List Nat}
    (proper : ∀ d ∈ acc, d < base) : ∀ d ∈ digitsOnto base fuel n acc, d < base := by
  fun_induction digitsOnto base fuel n acc with
  | case1 => exact proper
  | case2 fuel n acc small => exact List.forall_mem_cons.2 ⟨small, proper⟩
  | case3 fuel n acc _ ih => exact ih (List.forall_mem_cons.2 ⟨Nat.mod_lt _ (by omega), proper⟩)

/-- What is split off is put on again by the fold. -/
theorem foldl_digitsOnto {base : Nat} (large : 2 ≤ base) {fuel n : Nat} {acc : List Nat}
    (enough : n < fuel) :
    (digitsOnto base fuel n acc).foldl (fun n d => n * base + d) 0 =
      acc.foldl (fun n d => n * base + d) n := by
  fun_induction digitsOnto base fuel n acc with
  | case1 => omega
  | case2 fuel n acc small => rw [List.foldl_cons, Nat.zero_mul, Nat.zero_add]
  | case3 fuel n acc big ih =>
    have less : n / base < n := Nat.div_lt_self (by omega) large
    rw [ih (by omega), List.foldl_cons, Nat.mul_comm, Nat.div_add_mod]

theorem ofDigits_digits {base : Nat} (large : 2 ≤ base) (n : Nat) :
    ofDigits base (digits base n) = n :=
  foldl_digitsOnto large (Nat.lt_succ_self n)

theorem length_digitsOnto_le {base : Nat} {fuel n width : Nat} {acc : List Nat}
    (fits : n < base ^ width) (wide : 0 < width) :
    (digitsOnto base fuel n acc).length ≤ width + acc.length := by
  fun_induction digitsOnto base fuel n acc generalizing width with
  | case1 => omega
  | case2 fuel n acc small =>
    rw [List.length_cons]
    omega
  | case3 fuel n acc big ih =>
    -- One digit less is left for the quotient, and there is one since the number is no digit.
    obtain ⟨w, rfl⟩ : ∃ w, width = w + 1 := ⟨width - 1, by omega⟩
    have above : 0 < w := by
      apply Nat.pos_of_ne_zero
      rintro rfl
      rw [Nat.zero_add, pow_one] at fits
      exact big fits
    have quotient : n / base < base ^ w := Nat.div_lt_of_lt_mul (by rwa [← pow_succ'])
    have shorter := ih quotient above
    rw [List.length_cons] at shorter
    omega

/-- Only zero starts with the digit zero. -/
theorem digitsOnto_head {base : Nat} (large : 2 ≤ base) {fuel n : Nat} {acc : List Nat}
    (positive : 0 < n) (enough : n < fuel) :
    ∃ d ds, digitsOnto base fuel n acc = d :: ds ∧ d ≠ 0 := by
  fun_induction digitsOnto base fuel n acc with
  | case1 => omega
  | case2 fuel n acc small => exact ⟨n, acc, rfl, by omega⟩
  | case3 fuel n acc big ih =>
    have quotient : 0 < n / base := Nat.div_pos (by omega) (by omega)
    have less : n / base < n := Nat.div_lt_self positive large
    exact ih quotient (by omega)

theorem ofDigits_append (base : Nat) (xs ys : List Nat) :
    ofDigits base (xs ++ ys) = ofDigits base xs * base ^ ys.length + ofDigits base ys := by
  induction ys using List.reverseRecOn with
  | nil => simp [ofDigits]
  | append_singleton ys y ih =>
    rw [← List.append_assoc, ofDigits, List.foldl_append, ← ofDigits, ih]
    simp only [ofDigits, List.foldl_append, List.foldl_cons, List.foldl_nil, List.length_append,
      List.length_singleton, pow_succ]
    ring

theorem toList_signedDecimal (i : Int) :
    (signedDecimal i).toList = if i < 0 then '-' :: chars 10 i.natAbs else chars 10 i.natAbs := by
  rw [signedDecimal]
  split_ifs <;> simp [decimal]

/-! ## Filled up to a width -/

theorem ofDigits_replicate (base count : Nat) : ofDigits base (List.replicate count 0) = 0 := by
  induction count with
  | zero => rfl
  | succ count ih =>
    rw [List.replicate_succ, ofDigits, List.foldl_cons, Nat.zero_mul, ← ofDigits, ih]

theorem ofDigits_replicate_zero (base count : Nat) (ds : List Nat) :
    ofDigits base (List.replicate count 0 ++ ds) = ofDigits base ds := by
  rw [ofDigits_append, ofDigits_replicate, Nat.zero_mul, Nat.zero_add]

theorem replicate_zero_eq_map (count : Nat) :
    List.replicate count '0' = (List.replicate count 0).map digitChar := by
  rw [List.map_replicate]
  rfl

theorem zeroPadded_eq_map (base width n : Nat) :
    zeroPadded width (chars base n) =
      (List.replicate (width - (digits base n).length) 0 ++ digits base n).map digitChar := by
  rw [zeroPadded, chars, List.length_map, List.map_append, replicate_zero_eq_map]

/-- A number that fits the width is as many digits, and they spell it. -/
theorem zeroPadded_chars {base width n : Nat} (large : 2 ≤ base) (wide : 0 < width)
    (fits : n < base ^ width) :
    ∃ ds : List Nat, ds.length = width ∧ (∀ d ∈ ds, d < base) ∧ ofDigits base ds = n ∧
      zeroPadded width (chars base n) = ds.map digitChar := by
  have length : (digits base n).length ≤ width := length_digitsOnto_le fits wide
  have proper : ∀ d ∈ digits base n, d < base := digitsOnto_lt large (by simp)
  refine ⟨List.replicate (width - (digits base n).length) 0 ++ digits base n, ?_, ?_, ?_,
    zeroPadded_eq_map base width n⟩
  · rw [List.length_append, List.length_replicate]
    omega
  · intro d member
    rcases List.mem_append.1 member with zero | digit
    · rw [(List.mem_replicate.1 zero).2]
      omega
    · exact proper d digit
  · rw [ofDigits_replicate_zero, ofDigits_digits large]

end RegisterMap.Numeral
