import RegisterMap.Proofs.Numeral.Digits
import RegisterMap.Proofs.Numeral.Literal

/-! # Array indexes

An index is written in decimal, with leading zeros and a sign at will. `SpellsIndex k` are the texts
that stand for the index `k`; the reader takes exactly these (`readIndex_eq_some_iff`), and the
printed form of a number is one of them (`isDecimal_chars`). -/

namespace RegisterMap.Numeral

/-! ## Printed numbers -/

theorem digitValue?_digitChar {d : Nat} (small : d < 16) :
    digitValue? (digitChar d) = some d := by
  interval_cases d <;> rfl

theorem isDigit_digitChar {base d : Nat} (small : d < base) (narrow : base ≤ 16) :
    IsDigit base (digitChar d) :=
  ⟨d, small, digitValue?_digitChar (by omega)⟩

theorem isDigit_of_mem_map {base : Nat} (narrow : base ≤ 16) {ds : List Nat}
    (small : ∀ d ∈ ds, d < base) : ∀ c ∈ ds.map digitChar, IsDigit base c := by
  intro c member
  obtain ⟨d, inside, rfl⟩ := List.mem_map.1 member
  exact isDigit_digitChar (small d inside) narrow

theorem filterMap_digitValue?_map {ds : List Nat} (small : ∀ d ∈ ds, d < 16) :
    (ds.map digitChar).filterMap digitValue? = ds := by
  induction ds with
  | nil => rfl
  | cons d ds ih =>
    obtain ⟨first, rest⟩ := List.forall_mem_cons.1 small
    rw [List.map_cons, List.filterMap_cons_some (digitValue?_digitChar first), ih rest]

theorem digitsOnto_ne_nil {base fuel n : Nat} {acc : List Nat} (some : 0 < fuel ∨ acc ≠ []) :
    digitsOnto base fuel n acc ≠ [] := by
  fun_induction digitsOnto base fuel n acc with
  | case1 => simpa using some
  | case2 => exact List.cons_ne_nil _ _
  | case3 fuel n acc big ih => exact ih (.inr (List.cons_ne_nil _ _))

theorem digits_ne_nil (base n : Nat) : digits base n ≠ [] :=
  digitsOnto_ne_nil (.inl (Nat.succ_pos n))

section

variable {base : Nat} (large : 2 ≤ base) (narrow : base ≤ 16) (n : Nat)

include large

theorem digits_lt : ∀ d ∈ digits base n, d < base :=
  digitsOnto_lt large (by simp)

include narrow

theorem isDigit_of_mem_chars : ∀ c ∈ chars base n, IsDigit base c :=
  isDigit_of_mem_map narrow (digits_lt large n)

/-- The digits of a number spell it. -/
theorem numberOf_chars : numberOf base (chars base n) = n := by
  have small : ∀ d ∈ digits base n, d < 16 :=
    fun d member => (digits_lt large n d member).trans_le narrow
  rw [numberOf, chars, filterMap_digitValue?_map small, ofDigits_digits large]

end

/-! ## Spellings -/

/-- Decimal digits that spell the number, with any zeros in front. -/
structure IsDecimal (n : Nat) (digits : List Char) : Prop where
  nonempty : digits ≠ []
  proper : ∀ c ∈ digits, IsDigit 10 c
  number : numberOf 10 digits = n

/-- The text stands for the index `k`. -/
inductive SpellsIndex (k : Nat) : List Char → Prop where
  | plain {digits : List Char} (decimal : IsDecimal k digits) : SpellsIndex k digits
  | plus {digits : List Char} (decimal : IsDecimal k digits) : SpellsIndex k ('+' :: digits)
  | minus {digits : List Char} (zero : k = 0) (decimal : IsDecimal k digits) :
      SpellsIndex k ('-' :: digits)

theorem isDecimal_chars (n : Nat) : IsDecimal n (chars 10 n) where
  nonempty := by
    rw [chars, ne_eq, List.map_eq_nil_iff]
    exact digits_ne_nil 10 n
  proper := isDigit_of_mem_chars (by decide) (by decide) n
  number := numberOf_chars (by decide) (by decide) n

theorem IsDigit.ne_sign {c : Char} (digit : IsDigit 10 c) : c ≠ '+' ∧ c ≠ '-' := by
  have range := digit.decimal_range
  constructor <;> rintro rfl <;> revert range <;> decide

/-! ## Reading -/

/-- Where separators are not allowed, only digits are read. -/
theorem isDigit_of_scan {base limit acc n : Nat} {cs : List Char}
    (read : scan base limit false acc cs = .ok n) : ∀ c ∈ cs, IsDigit base c := by
  induction cs generalizing acc with
  | nil => simp
  | cons c cs ih =>
    rw [scan, Bool.false_and, if_neg Bool.false_ne_true] at read
    split at read
    · cases read
    · next d value =>
      split_ifs at read with large beyond
      exact List.forall_mem_cons.2 ⟨⟨d, Nat.not_le.1 large, value⟩, ih read⟩

theorem IsDecimal.readMagnitude_eq {n : Nat} {digits : List Char} (decimal : IsDecimal n digits)
    (small : n < 2 ^ 64) : readMagnitude false digits 64 = ⟨n, none⟩ := by
  have read : readMagnitude false digits 64 = .within 64 (numberOf 10 digits) :=
    Numeral.readMagnitude_eq decimal.nonempty (by decide) (by decide) (by decide) rfl
      decimal.proper
  rw [read, decimal.number, Reading.within, if_pos small]

theorem isDecimal_of_readMagnitude {literal : List Char}
    (read : (readMagnitude false literal 64).fault = none) :
    IsDecimal (readMagnitude false literal 64).value literal := by
  have nonempty : literal ≠ [] := by
    rintro rfl
    cases read
  -- A scan that reaches the end of the text has met nothing but digits.
  have proper : ∀ c ∈ literal, IsDigit 10 c := by
    simp only [readMagnitude, List.isEmpty_eq_false_iff.2 nonempty, Bool.false_eq_true, if_false,
      show ¬ ((64 : Int) < 0 ∨ (64 : Int) < 64) by omega] at read
    split at read
    · cases read
    · cases read
    · next n scanned => exact isDigit_of_scan scanned
  -- On digits the reader has one outcome, and it fails only if they spell too large a number.
  have outcome : readMagnitude false literal 64 = .within 64 (numberOf 10 literal) :=
    readMagnitude_eq nonempty (by decide) (by decide) (by decide) rfl proper
  rw [outcome, Reading.within] at read ⊢
  split at read
  · next small => exact ⟨nonempty, proper, by rw [if_pos small]⟩
  · cases read

/-- A sign in front decides only about the sign and the limit. -/
theorem readIndex_of_magnitude {text literal : List Char} (bare : withoutSign text = literal)
    (nonempty : literal ≠ []) :
    readIndex text =
      match (readMagnitude false literal 64).fault with
      | some _ => none
      | none =>
        if text.head? == some '-' then
          if 2 ^ 63 < (readMagnitude false literal 64).value then none
          else some (-(readMagnitude false literal 64).value)
        else if 2 ^ 63 ≤ (readMagnitude false literal 64).value then none
        else some (readMagnitude false literal 64).value := by
  subst bare
  unfold readIndex
  split
  · contradiction
  · rfl

theorem IsDecimal.withoutSign_eq {n : Nat} {digits : List Char} (decimal : IsDecimal n digits) :
    withoutSign digits = digits ∧ digits.head? ≠ some '-' := by
  obtain ⟨c, rest, rfl⟩ := List.exists_cons_of_ne_nil decimal.nonempty
  obtain ⟨plus, minus⟩ := (decimal.proper c List.mem_cons_self).ne_sign
  refine ⟨?_, by simpa using minus⟩
  unfold withoutSign
  split <;> simp_all

theorem SpellsIndex.readIndex_eq {k : Nat} {text : List Char} (spelled : SpellsIndex k text)
    (small : k < 2 ^ 63) : readIndex text = some (k : Int) := by
  cases spelled with
  | plain decimal =>
    obtain ⟨bare, first⟩ := decimal.withoutSign_eq
    rw [readIndex_of_magnitude bare decimal.nonempty, decimal.readMagnitude_eq (by omega)]
    simp only [first, beq_iff_eq, if_false, Nat.not_le.2 small]
  | @plus digits decimal =>
    have bare : withoutSign ('+' :: digits) = digits := rfl
    rw [readIndex_of_magnitude bare decimal.nonempty, decimal.readMagnitude_eq (by omega)]
    simp only [List.head?_cons, beq_iff_eq, Option.some.injEq, show '+' ≠ '-' by decide, if_false,
      Nat.not_le.2 small]
  | @minus digits zero decimal =>
    have bare : withoutSign ('-' :: digits) = digits := rfl
    rw [readIndex_of_magnitude bare decimal.nonempty, decimal.readMagnitude_eq (by omega)]
    simp [zero]

theorem spellsIndex_of_readIndex {k : Nat} {text : List Char}
    (read : readIndex text = some (k : Int)) : SpellsIndex k text := by
  have nonempty : withoutSign text ≠ [] := by
    intro empty
    simp [readIndex, empty] at read
  rw [readIndex_of_magnitude rfl nonempty] at read
  split at read
  · cases read
  · next sound =>
    have decimal := isDecimal_of_readMagnitude sound
    -- What is read is the number of the digits, and with a minus it has to be zero.
    split_ifs at read with negative beyond beyond
    · obtain ⟨digits, rfl⟩ : ∃ digits, text = '-' :: digits := by
        simpa [List.head?_eq_some_iff] using negative
      have same : -((readMagnitude false digits 64).value : Int) = k := Option.some.inj read
      have zero : (readMagnitude false digits 64).value = 0 := by omega
      have decimal : IsDecimal (readMagnitude false digits 64).value digits := decimal
      exact .minus (by omega) (by rwa [zero, ← show k = 0 by omega] at decimal)
    · have same : (readMagnitude false (withoutSign text) 64).value = k := by
        exact_mod_cast Option.some.inj read
      rw [same] at decimal
      unfold withoutSign at decimal
      split at decimal
      · exact .plus decimal
      · simp at negative
      · exact .plain decimal

/-- The reader of indexes takes exactly their spellings. -/
theorem readIndex_eq_some_iff {k : Nat} (small : k < 2 ^ 63) {text : List Char} :
    readIndex text = some (k : Int) ↔ SpellsIndex k text :=
  ⟨spellsIndex_of_readIndex, fun spelled => spelled.readIndex_eq small⟩

end RegisterMap.Numeral
