import Mathlib.Tactic
import RegisterMap.Numeral.Integer

/-! # What number literals denote

A literal of digits denotes the number its digits spell, in the base that its mark announces. The
reader stops at the first prefix that is too large; since a number never shrinks when a digit is
added to it, that prefix tells that the whole number is too large (`scan_append`). -/

namespace RegisterMap.Numeral

/-- The character is a digit of the base, in either case. -/
def IsDigit (base : Nat) (c : Char) : Prop :=
  ∃ d < base, digitValue? c = some d

/-- The number that digits spell, most significant digit first. -/
def numberOf (base : Nat) (digits : List Char) : Nat :=
  ofDigits base (digits.filterMap digitValue?)

theorem IsDigit.ne_underscore {base : Nat} {c : Char} (digit : IsDigit base c) : c ≠ '_' := by
  rintro rfl
  obtain ⟨d, -, value⟩ := digit
  cases value

theorem IsDigit.decimal_range {c : Char} (digit : IsDigit 10 c) : 48 ≤ c.toNat ∧ c.toNat ≤ 57 := by
  obtain ⟨d, small, value⟩ := digit
  have zero : '0' ≤ c ↔ 48 ≤ c.toNat := Iff.rfl
  have nine : c ≤ '9' ↔ c.toNat ≤ 57 := Iff.rfl
  have lower : 'a' ≤ c ↔ 97 ≤ c.toNat := Iff.rfl
  have upper : 'A' ≤ c ↔ 65 ≤ c.toNat := Iff.rfl
  simp only [digitValue?, zero, nine, lower, upper] at value
  split_ifs at value <;> cases value <;> omega

theorem IsDigit.lowered_eq {c : Char} (digit : IsDigit 10 c) : lowered c = c := by
  rw [lowered, if_neg]
  rintro ⟨upper, -⟩
  have above : 65 ≤ c.toNat := upper
  have range := digit.decimal_range
  omega

/-! ## Scanning digits -/

theorem le_foldl_digits {base : Nat} (positive : 0 < base) (ds : List Nat) (acc : Nat) :
    acc ≤ ds.foldl (fun n d => n * base + d) acc := by
  induction ds generalizing acc with
  | nil => exact le_rfl
  | cons d ds ih =>
    have grown : acc ≤ acc * base + d := (Nat.le_mul_of_pos_right acc positive).trans (by omega)
    exact grown.trans (ih _)

/-- The character may stand in a literal behind its mark. -/
def Continues (base : Nat) (separated : Bool) (c : Char) : Prop :=
  separated = true ∧ c = '_' ∨ IsDigit base c

/-- A run of such characters is read as the number that its digits spell, if that is within the
    limit, and then the scan goes on behind it. -/
theorem scan_append {base limit : Nat} (positive : 0 < base) {separated : Bool} {run : List Char}
    (proper : ∀ c ∈ run, Continues base separated c) (rest : List Char) {acc : Nat}
    (below : acc ≤ limit) :
    scan base limit separated acc (run ++ rest) =
      if (run.filterMap digitValue?).foldl (fun n d => n * base + d) acc ≤ limit then
        scan base limit separated ((run.filterMap digitValue?).foldl (fun n d => n * base + d) acc)
          rest
      else .error .outOfRange := by
  induction run generalizing acc with
  | nil => simp [below]
  | cons c run ih =>
    obtain ⟨first, others⟩ := List.forall_mem_cons.1 proper
    rw [List.cons_append, scan]
    rcases first with ⟨rfl, rfl⟩ | digit
    · rw [if_pos (by decide), List.filterMap_cons_none (show digitValue? '_' = none from rfl)]
      exact ih others below
    · have plain : (separated && c == '_') = false := by simp [digit.ne_underscore]
      obtain ⟨d, small, value⟩ := digit
      rw [plain, if_neg Bool.false_ne_true, value]
      simp only [List.filterMap_cons_some value, List.foldl_cons, Nat.not_le.2 small, if_false]
      split
      · next large =>
        -- What is already too large stays so.
        have grown := le_foldl_digits positive (run.filterMap digitValue?) (acc * base + d)
        rw [if_neg (by omega)]
      · next inside => exact ih others (by omega)

theorem scan_run {base : Nat} (positive : 0 < base) (limit : Nat) (separated : Bool)
    {run : List Char} (proper : ∀ c ∈ run, Continues base separated c) (rest : List Char) :
    scan base limit separated 0 (run ++ rest) =
      if numberOf base run ≤ limit then scan base limit separated (numberOf base run) rest
      else .error .outOfRange :=
  scan_append positive proper rest (Nat.zero_le _)

/-! ## Reading literals -/

/-- The outcome of reading a literal that denotes the number `n`. -/
def Reading.within (width n : Nat) : Reading Nat :=
  if n < 2 ^ width then ⟨n, none⟩ else ⟨2 ^ width - 1, some .outOfRange⟩

/-- The reader scans the digits in the base that the literal announces. -/
theorem readMagnitude_of_announced {width : Nat} (wide : 0 < width) (narrow : width ≤ 64)
    {marked : Bool} {literal body : List Char} {base : Nat} (nonempty : literal ≠ [])
    (announced : (if marked then announcedBase literal else (10, literal)) = (base, body)) :
    readMagnitude marked literal width =
      match scan base (2 ^ width - 1) marked 0 body with
      | .error .outOfRange => ⟨2 ^ width - 1, some .outOfRange⟩
      | .error fault => ⟨0, some fault⟩
      | .ok n =>
        if body.contains '_' && !separatorsPlaced literal then ⟨0, some .malformed⟩
        else ⟨n, none⟩ := by
  have range : ¬ ((width : Int) < 0 ∨ 64 < (width : Int)) := by omega
  have effective : effectiveWidth width = width := by simp [effectiveWidth, wide.ne']
  rw [readMagnitude, List.isEmpty_eq_false_iff.2 nonempty, if_neg Bool.false_ne_true,
    if_neg range, announced, effective]
  rfl

/-- A literal is read as the number that its digits spell in the base it announces. -/
theorem readMagnitude_eq {marked : Bool} {literal digits : List Char} {base width : Nat}
    (nonempty : literal ≠ []) (wide : 0 < width) (narrow : width ≤ 64) (positive : 0 < base)
    (announced : (if marked then announcedBase literal else (10, literal)) = (base, digits))
    (proper : ∀ c ∈ digits, IsDigit base c) :
    readMagnitude marked literal width = .within width (numberOf base digits) := by
  have plain : digits.contains '_' = false := by
    rw [List.contains_eq_mem, decide_eq_false_iff_not]
    exact fun member => (proper _ member).ne_underscore rfl
  have room : 0 < 2 ^ width := by positivity
  have scanned := scan_run positive (2 ^ width - 1) marked
    (fun c member => .inr (proper c member)) []
  rw [List.append_nil, scan] at scanned
  rw [readMagnitude_of_announced wide narrow nonempty announced, scanned, plain, Reading.within]
  by_cases fits : numberOf base digits < 2 ^ width
  · rw [if_pos (show numberOf base digits ≤ 2 ^ width - 1 by omega), if_pos fits]
    rfl
  · rw [if_neg (show ¬ numberOf base digits ≤ 2 ^ width - 1 by omega), if_neg fits]

theorem readUnsigned_eq {literal digits : List Char} {base width : Nat}
    (nonempty : literal ≠ []) (wide : 0 < width) (narrow : width ≤ 64) (positive : 0 < base)
    (announced : (if hasBaseMark literal then announcedBase literal else (10, literal)) =
      (base, digits))
    (proper : ∀ c ∈ digits, IsDigit base c) :
    readUnsigned literal width = .within width (numberOf base digits) :=
  readMagnitude_eq nonempty wide narrow positive announced proper

/-- A leading zero alone announces no base. -/
theorem hasBaseMark_decimal {digits : List Char} (proper : ∀ c ∈ digits, IsDigit 10 c) :
    hasBaseMark digits = false := by
  have unsigned : digits.dropWhile (fun c => c == '+' || c == '-') = digits := by
    cases digits with
    | nil => rfl
    | cons c cs =>
      have range := (proper c List.mem_cons_self).decimal_range
      apply List.dropWhile_cons_of_neg
      simp only [Bool.or_eq_true, beq_iff_eq, not_or]
      constructor <;> rintro rfl <;> revert range <;> decide
  rw [hasBaseMark, unsigned]
  split
  · next mark cs =>
    have digit := proper mark (by simp)
    have range := digit.decimal_range
    simp only [digit.lowered_eq, Bool.or_eq_false_iff, beq_eq_false_iff_ne]
    refine ⟨⟨?_, ?_⟩, ?_⟩ <;> rintro rfl <;> revert range <;> decide
  · rfl

end RegisterMap.Numeral
