import RegisterMap.Numeral.Real
import RegisterMap.Proofs.Numeral.Index

/-! # Integers as floating-point literals

The decimal text of an integer is a floating-point literal of that integer: it is none of the words,
it has neither a point nor an exponent, and a leading zero announces nothing
(`readReal?_signedDecimal`). -/

namespace RegisterMap.Numeral

variable {n : Nat} {digits : List Char}

/-- A word starts with a letter. -/
theorem IsDigit.isWord_eq {c : Char} (digit : IsDigit 10 c) (cs : List Char) {word : String}
    {letter : Char} (starts : word.toList.head? = some letter) (high : 57 < letter.toNat) :
    isWord word (c :: cs) = false := by
  rw [isWord, List.map_cons, digit.lowered_eq, beq_eq_false_iff_ne]
  intro same
  rw [← same, List.head?_cons, Option.some.injEq] at starts
  have range := digit.decimal_range
  rw [starts] at range
  omega

/-- A text that starts with a digit, behind a minus sign or not, is none of the words. -/
theorem IsDigit.readSpecial?_eq {c : Char} (digit : IsDigit 10 c) {cs text : List Char}
    (signed : text = c :: cs ∨ text = '-' :: c :: cs) :
    withoutSign text = c :: cs ∧ readSpecial? text = none := by
  have noInf : isWord "inf" (c :: cs) = false := digit.isWord_eq cs rfl (by decide)
  have noInfinity : isWord "infinity" (c :: cs) = false := digit.isWord_eq cs rfl (by decide)
  have parts : withoutSign text = c :: cs ∧ isWord "nan" text = false := by
    rcases signed with rfl | rfl
    · obtain ⟨plus, minus⟩ := digit.ne_sign
      refine ⟨?_, digit.isWord_eq cs rfl (by decide)⟩
      unfold withoutSign
      split <;> simp_all
    · refine ⟨rfl, ?_⟩
      rw [isWord, List.map_cons, beq_eq_false_iff_ne]
      exact fun same => absurd (List.cons.inj same).1 (by decide)
  obtain ⟨unsigned, noNan⟩ := parts
  refine ⟨unsigned, ?_⟩
  rw [readSpecial?, unsigned, noInf, noInfinity, noNan]
  rfl

theorem IsDigit.ne_point {c : Char} (digit : IsDigit 10 c) : c ≠ '.' := by
  rintro rfl
  obtain ⟨d, -, value⟩ := digit
  cases value

theorem readDigitRun_digits (proper : ∀ c ∈ digits, IsDigit 10 c) {run : DigitRun}
    (whole : run.point = false) :
    readDigitRun false run digits =
      ({ run with
          mantissa := (digits.filterMap digitValue?).foldl (fun n d => n * 10 + d) run.mantissa
          count := run.count + digits.length }, []) := by
  induction digits generalizing run with
  | nil => rfl
  | cons c cs ih =>
    obtain ⟨digit, others⟩ := List.forall_mem_cons.1 proper
    have separator : ¬ (c == '_') = true := by simpa using digit.ne_underscore
    have point : ¬ (c == '.' && !run.point) = true := by simp [digit.ne_point]
    obtain ⟨d, small, value⟩ := digit
    rw [readDigitRun, if_neg separator, if_neg point, value]
    simp only [Bool.false_eq_true, if_false, if_pos small]
    rw [ih others (by exact whole)]
    simp [value, whole, Nat.add_assoc, Nat.add_comm 1]

/-- Digits announce no other base. -/
theorem IsDecimal.readDigits?_eq (decimal : IsDecimal n digits) {text : List Char}
    (unsigned : withoutSign text = digits) (plain : '_' ∉ text) :
    readDigits? text = some (.decimal (text.head? == some '-') n 0) := by
  have number := decimal.number
  rw [numberOf, ofDigits] at number
  rw [readDigits?, unsigned]
  split
  next hexadecimal body chosen =>
  have decimalBody : (false, digits) = (hexadecimal, body) := by
    rw [← chosen]
    split
    · next mark c cs =>
      have digit := decimal.proper mark (by simp)
      rw [if_neg]
      rw [digit.lowered_eq, beq_iff_eq]
      rintro rfl
      exact absurd digit.decimal_range (by decide)
    · rfl
  cases decimalBody
  rw [readDigitRun_digits decimal.proper rfl]
  simp [decimal.nonempty, number, plain]

/-- Digits stand for neither infinity nor NaN. -/
theorem exists_of_readDigits? {text : List Char} {literal : RealLiteral}
    (read : readDigits? text = some literal) : ∃ negative mantissa exponent,
      literal = .decimal negative mantissa exponent ∨
        literal = .binary negative mantissa exponent := by
  rw [readDigits?] at read
  split at read
  next hexadecimal digits chosen =>
  generalize readDigitRun hexadecimal _ digits = result at read
  obtain ⟨run, rest⟩ := result
  dsimp only at read
  split at read
  · cases read
  · split at read
    · split_ifs at read
      · cases read
        exact ⟨_, _, _, .inr rfl⟩
      · cases read
        exact ⟨_, _, _, .inl rfl⟩
    · cases read

/-- Decimal digits, with a minus sign or without, are a literal. -/
theorem IsDecimal.readReal?_eq (decimal : IsDecimal n digits) {text : List Char}
    (signed : text = digits ∨ text = '-' :: digits) :
    readReal? text = some (.decimal (text.head? == some '-') n 0) := by
  have plain : '_' ∉ digits := fun member => (decimal.proper _ member).ne_underscore rfl
  have plainText : '_' ∉ text := by
    rcases signed with rfl | rfl
    · exact plain
    · simpa using plain
  obtain ⟨c, cs, rfl⟩ := List.exists_cons_of_ne_nil decimal.nonempty
  obtain ⟨unsigned, noWord⟩ := (decimal.proper c List.mem_cons_self).readSpecial?_eq signed
  rw [readReal?, noWord]
  exact decimal.readDigits?_eq unsigned plainText

/-- The text of an integer is a literal of that integer. -/
theorem readReal?_signedDecimal (i : Int) :
    readReal? (signedDecimal i).toList = some (.decimal (i < 0) i.natAbs 0) := by
  have decimal := isDecimal_chars i.natAbs
  rw [toList_signedDecimal]
  split_ifs with negative
  · rw [decimal.readReal?_eq (.inr rfl)]
    simp [negative]
  · rw [decimal.readReal?_eq (.inl rfl)]
    simp [negative, decimal.withoutSign_eq.2]

end RegisterMap.Numeral
