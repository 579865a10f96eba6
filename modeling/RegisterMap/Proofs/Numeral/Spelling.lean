import RegisterMap.Proofs.Numeral.Index

/-! # Number literals

A number literal is a text of decimal digits, or digits of another base behind its mark, each with
at most one underscore in front of it; signed numbers take one sign. `SpellsNatural n` and
`SpellsInteger i` are the texts that stand for a number.

The readers go from left to right and stop at the first problem. What they do is settled by the
longest run of characters that may stand in a literal (`scan_cases`): if the run spells too large a
number the text is out of range, whatever follows the run (`StartsBeyond`), and if it does not reach
the end of the text, there is no literal. -/

namespace RegisterMap.Numeral

/-! ## The grammar -/

/-- The letter that announces the base, behind a zero. -/
inductive IsMark : (base : Nat) → (mark : Char) → Prop where
  | binary : IsMark 2 'b'
  | upperBinary : IsMark 2 'B'
  | octal : IsMark 8 'o'
  | upperOctal : IsMark 8 'O'
  | hexadecimal : IsMark 16 'x'
  | upperHexadecimal : IsMark 16 'X'

/-- The text consists of the digits, each with at most one underscore directly in front of it. -/
inductive Separated (base : Nat) : (digits text : List Char) → Prop where
  | nil : Separated base [] []
  | digit {c : Char} {digits text : List Char} (digit : IsDigit base c)
      (rest : Separated base digits text) : Separated base (c :: digits) (c :: text)
  | separator {c : Char} {digits text : List Char} (digit : IsDigit base c)
      (rest : Separated base digits text) : Separated base (c :: digits) ('_' :: c :: text)

/-- The text is a literal of the number, without a sign. -/
inductive SpellsNatural (n : Nat) : List Char → Prop where
  | decimal {digits : List Char} (decimal : IsDecimal n digits) : SpellsNatural n digits
  | marked {base : Nat} {mark : Char} {digits text : List Char} (marked : IsMark base mark)
      (nonempty : digits ≠ []) (separated : Separated base digits text)
      (number : numberOf base digits = n) : SpellsNatural n ('0' :: mark :: text)

/-- The text is a literal of the number, with at most one sign. -/
inductive SpellsInteger (i : Int) : List Char → Prop where
  | plain {n : Nat} {text : List Char} (spelled : SpellsNatural n text) (number : i = n) :
      SpellsInteger i text
  | plus {n : Nat} {text : List Char} (spelled : SpellsNatural n text) (number : i = n) :
      SpellsInteger i ('+' :: text)
  | minus {n : Nat} {text : List Char} (spelled : SpellsNatural n text) (number : i = -n) :
      SpellsInteger i ('-' :: text)

/-- The text starts like a literal of a number that has more than `width` bits. Between digits
    behind a mark there may be any number of underscores. -/
inductive StartsBeyond (width : Nat) : List Char → Prop where
  | decimal {run rest : List Char} (proper : ∀ c ∈ run, IsDigit 10 c)
      (beyond : 2 ^ width ≤ numberOf 10 run) : StartsBeyond width (run ++ rest)
  | marked {base : Nat} {mark : Char} {run rest : List Char} (marked : IsMark base mark)
      (proper : ∀ c ∈ run, c = '_' ∨ IsDigit base c) (beyond : 2 ^ width ≤ numberOf base run) :
      StartsBeyond width ('0' :: mark :: (run ++ rest))

/-! ## Marks -/

theorem toNat_lt_of_isDigit {base : Nat} {c : Char} (digit : IsDigit base c) : c.toNat < 128 := by
  obtain ⟨d, -, value⟩ := digit
  have nine : c ≤ '9' ↔ c.toNat ≤ 57 := Iff.rfl
  have lower : c ≤ 'z' ↔ c.toNat ≤ 122 := Iff.rfl
  have upper : c ≤ 'Z' ↔ c.toNat ≤ 90 := Iff.rfl
  simp only [digitValue?, nine, lower, upper] at value
  split_ifs at value <;> omega

theorem toNat_lowered (c : Char) :
    (lowered c).toNat = if 65 ≤ c.toNat ∧ c.toNat ≤ 90 then c.toNat + 32 else c.toNat := by
  have lower : 'A' ≤ c ↔ 65 ≤ c.toNat := Iff.rfl
  have upper : c ≤ 'Z' ↔ c.toNat ≤ 90 := Iff.rfl
  simp only [lowered, lower, upper]
  split_ifs with letter
  · obtain ⟨low, high⟩ := letter
    interval_cases c.toNat <;> rfl
  · rfl

theorem IsMark.lowered_eq {base : Nat} {mark : Char} (marked : IsMark base mark) :
    lowered mark = 'b' ∧ base = 2 ∨ lowered mark = 'o' ∧ base = 8 ∨
      lowered mark = 'x' ∧ base = 16 := by
  cases marked <;> decide

theorem eq_of_lowered {c letter : Char} (same : lowered c = letter) :
    c = letter ∨ c = Char.ofNat (letter.toNat - 32) := by
  have number := toNat_lowered c
  rw [same] at number
  split_ifs at number with upper
  · right
    rw [number, Nat.add_sub_cancel, Char.ofNat_toNat]
  · left
    rw [← Char.ofNat_toNat c, ← number, Char.ofNat_toNat]

theorem exists_isMark {mark : Char}
    (letter : lowered mark = 'x' ∨ lowered mark = 'o' ∨ lowered mark = 'b') :
    ∃ base, IsMark base mark := by
  rcases letter with same | same | same
  · rcases eq_of_lowered same with rfl | rfl
    · exact ⟨16, .hexadecimal⟩
    · exact ⟨16, .upperHexadecimal⟩
  · rcases eq_of_lowered same with rfl | rfl
    · exact ⟨8, .octal⟩
    · exact ⟨8, .upperOctal⟩
  · rcases eq_of_lowered same with rfl | rfl
    · exact ⟨2, .binary⟩
    · exact ⟨2, .upperBinary⟩

theorem IsMark.not_isDigit {base : Nat} {mark : Char} (marked : IsMark base mark) :
    ¬ IsDigit 10 mark := by
  intro digit
  have range := digit.decimal_range
  cases marked <;> revert range <;> decide

theorem IsMark.positive {base : Nat} {mark : Char} (marked : IsMark base mark) : 0 < base := by
  cases marked <;> decide

theorem IsMark.hasBaseMark {base : Nat} {mark : Char} (marked : IsMark base mark)
    (body : List Char) : hasBaseMark ('0' :: mark :: body) = true := by
  cases marked <;> rfl

theorem IsMark.announcedBase_eq {base : Nat} {mark : Char} (marked : IsMark base mark)
    {body : List Char} (nonempty : body ≠ []) :
    announcedBase ('0' :: mark :: body) = (base, body) := by
  obtain ⟨c, cs, rfl⟩ := List.exists_cons_of_ne_nil nonempty
  cases marked <;> rfl

/-- A text that has a base mark behind its signs starts with the mark or with a sign. -/
theorem hasBaseMark_cases {text : List Char} (announced : hasBaseMark text = true) :
    (∃ base mark body, IsMark base mark ∧ text = '0' :: mark :: body) ∨
      ∃ sign rest, (sign = '+' ∨ sign = '-') ∧ text = sign :: rest := by
  cases text with
  | nil => cases announced
  | cons c rest =>
    by_cases sign : c = '+' ∨ c = '-'
    · exact .inr ⟨c, rest, sign, rfl⟩
    · left
      have unsigned : (c :: rest).dropWhile (fun c => c == '+' || c == '-') = c :: rest := by
        apply List.dropWhile_cons_of_neg
        simpa only [Bool.or_eq_true, beq_iff_eq] using sign
      rw [Numeral.hasBaseMark, unsigned] at announced
      split at announced
      · next mark body same =>
        simp only [Bool.or_eq_true, beq_iff_eq, or_assoc] at announced
        obtain ⟨base, marked⟩ := exists_isMark announced
        exact ⟨base, mark, body, marked, same⟩
      · cases announced

theorem hasBaseMark_withoutSign (text : List Char) :
    hasBaseMark (withoutSign text) = hasBaseMark text := by
  unfold withoutSign
  split <;> rfl

/-! ## Runs -/

theorem scan_of_not_continues {base limit acc : Nat} {separated : Bool} {c : Char}
    (stop : ¬ Continues base separated c) (cs : List Char) :
    scan base limit separated acc (c :: cs) = .error .malformed := by
  have plain : (separated && c == '_') = false := by
    rw [Bool.and_eq_false_iff, beq_eq_false_iff_ne, ← Bool.not_eq_true]
    exact not_and_or.1 fun separator => stop (.inl separator)
  rw [scan, plain, if_neg Bool.false_ne_true]
  split
  · rfl
  · next d value =>
    have large : base ≤ d := by
      by_contra small
      exact stop (.inr ⟨d, Nat.not_le.1 small, value⟩)
    rw [if_pos large]

/-- Every text is a run of characters of a literal and, if it goes on, another character. -/
theorem exists_run (base : Nat) (separated : Bool) (cs : List Char) :
    ∃ run rest, cs = run ++ rest ∧ (∀ c ∈ run, Continues base separated c) ∧
      (rest = [] ∨ ∃ c tail, rest = c :: tail ∧ ¬ Continues base separated c) := by
  induction cs with
  | nil => exact ⟨[], [], rfl, by simp, .inl rfl⟩
  | cons c cs ih =>
    by_cases continues : Continues base separated c
    · obtain ⟨run, rest, rfl, proper, stop⟩ := ih
      exact ⟨c :: run, rest, rfl, List.forall_mem_cons.2 ⟨continues, proper⟩, stop⟩
    · exact ⟨[], c :: cs, rfl, by simp, .inr ⟨c, cs, rfl, continues⟩⟩

/-- The three outcomes of a scan, told by the longest run at the start of the text. -/
theorem scan_cases {base : Nat} (positive : 0 < base) (limit : Nat) (separated : Bool)
    (cs : List Char) :
    ((∀ c ∈ cs, Continues base separated c) ∧ numberOf base cs ≤ limit ∧
      scan base limit separated 0 cs = .ok (numberOf base cs)) ∨
    ((∃ run rest, cs = run ++ rest ∧ (∀ c ∈ run, Continues base separated c) ∧
        limit < numberOf base run) ∧
      scan base limit separated 0 cs = .error .outOfRange) ∨
    ((¬ ∀ c ∈ cs, Continues base separated c) ∧
      scan base limit separated 0 cs = .error .malformed) := by
  obtain ⟨run, rest, rfl, proper, stop⟩ := exists_run base separated cs
  rw [scan_run positive limit separated proper]
  by_cases within : numberOf base run ≤ limit
  · rw [if_pos within]
    rcases stop with rfl | ⟨c, tail, rfl, stop⟩
    · left
      rw [List.append_nil]
      exact ⟨proper, within, rfl⟩
    · right; right
      exact ⟨fun all => stop (all c (by simp)), scan_of_not_continues stop tail⟩
  · right; left
    rw [if_neg within]
    exact ⟨⟨run, rest, rfl, proper, Nat.not_le.1 within⟩, rfl⟩

/-! ## Separators -/

/-- What the placement of separators looks at is a digit, for every digit of the base. -/
theorem IsMark.isDigit_class {base : Nat} {mark c : Char} (marked : IsMark base mark)
    (digit : IsDigit base c) :
    (c.isDigit || (lowered mark == 'x' && 'a' ≤ lowered c && lowered c ≤ 'f')) = true := by
  have small := toNat_lt_of_isDigit digit
  have all : ∀ base ∈ [2, 8, 16], ∀ n < 128, (∃ d < base, digitValue? (Char.ofNat n) = some d) →
      ((Char.ofNat n).isDigit || (base == 16 && 'a' ≤ lowered (Char.ofNat n) &&
        lowered (Char.ofNat n) ≤ 'f')) = true := by
    decide +kernel
  have known := all base (by cases marked <;> decide) c.toNat small
  rw [Char.ofNat_toNat] at known
  have hexadecimal : (lowered mark == 'x') = (base == 16) := by cases marked <;> rfl
  rw [hexadecimal]
  exact known digit

theorem IsMark.placed_digit {base : Nat} {mark c : Char} (marked : IsMark base mark)
    (digit : IsDigit base c) (before : Before) (cs : List Char) :
    separatorsBetweenDigits (lowered mark == 'x') before (c :: cs) =
      separatorsBetweenDigits (lowered mark == 'x') .digit cs := by
  rw [separatorsBetweenDigits, if_pos (marked.isDigit_class digit)]

theorem placed_separator (hexadecimal : Bool) (before : Before) (cs : List Char) :
    separatorsBetweenDigits hexadecimal before ('_' :: cs) =
      (before == .digit && separatorsBetweenDigits hexadecimal .separator cs) := by
  rw [separatorsBetweenDigits, if_neg (by cases hexadecimal <;> decide), if_pos (by decide)]

theorem Separated.placed {base : Nat} {mark : Char} (marked : IsMark base mark)
    {digits text : List Char} (separated : Separated base digits text) :
    separatorsBetweenDigits (lowered mark == 'x') .digit text = true := by
  induction separated with
  | nil => rfl
  | digit digit rest ih => rw [marked.placed_digit digit, ih]
  | separator digit rest ih =>
    rw [placed_separator, marked.placed_digit digit, ih]
    rfl

/-- Behind a digit the text is separated; behind an underscore it is with that underscore. -/
theorem exists_separated {base : Nat} {mark : Char} (marked : IsMark base mark) {text : List Char}
    (proper : ∀ c ∈ text, Continues base true c) :
    (separatorsBetweenDigits (lowered mark == 'x') .digit text = true →
      ∃ digits, Separated base digits text) ∧
    (separatorsBetweenDigits (lowered mark == 'x') .separator text = true →
      ∃ digits, Separated base digits ('_' :: text)) := by
  induction text with
  | nil => exact ⟨fun _ => ⟨[], .nil⟩, fun placed => by cases placed⟩
  | cons c text ih =>
    obtain ⟨first, others⟩ := List.forall_mem_cons.1 proper
    obtain ⟨afterDigit, afterSeparator⟩ := ih others
    rcases first with ⟨-, rfl⟩ | digit
    · rw [placed_separator, placed_separator]
      exact ⟨fun placed => afterSeparator placed, fun placed => by cases placed⟩
    · rw [marked.placed_digit digit, marked.placed_digit digit]
      constructor
      · intro placed
        obtain ⟨digits, separated⟩ := afterDigit placed
        exact ⟨c :: digits, .digit digit separated⟩
      · intro placed
        obtain ⟨digits, separated⟩ := afterDigit placed
        exact ⟨c :: digits, .separator digit separated⟩

theorem Separated.continues {base : Nat} {digits text : List Char}
    (separated : Separated base digits text) : ∀ c ∈ text, Continues base true c := by
  induction separated with
  | nil => simp
  | digit digit rest ih => exact List.forall_mem_cons.2 ⟨.inr digit, ih⟩
  | separator digit rest ih =>
    exact List.forall_mem_cons.2 ⟨.inl ⟨rfl, rfl⟩, List.forall_mem_cons.2 ⟨.inr digit, ih⟩⟩

/-- Separators do not count. -/
theorem Separated.numberOf_eq {base : Nat} {digits text : List Char}
    (separated : Separated base digits text) : numberOf base text = numberOf base digits := by
  have same : text.filterMap digitValue? = digits.filterMap digitValue? := by
    induction separated with
    | nil => rfl
    | digit digit rest ih => rw [List.filterMap_cons, List.filterMap_cons, ih]
    | separator digit rest ih =>
      rw [List.filterMap_cons_none (show digitValue? '_' = none from rfl), List.filterMap_cons,
        List.filterMap_cons, ih]
  rw [numberOf, same, numberOf]

theorem Separated.ne_nil_iff {base : Nat} {digits text : List Char}
    (separated : Separated base digits text) : digits ≠ [] ↔ text ≠ [] := by
  cases separated <;> simp

end RegisterMap.Numeral
