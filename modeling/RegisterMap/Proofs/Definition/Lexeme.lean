import RegisterMap.Definition.Token
import Mathlib.Data.List.TakeWhile
import Mathlib.Tactic

/-! # The token classes

`IsToken c x` says which texts are tokens of a class, rule by rule and without a scanner. At each
place of a file the scanner takes the longest token that starts there (`lexeme?_append_iff`), and
no text is a token of two classes (`IsToken.class_unique`).

A token is `Apart` from the text behind it if it does not go on there. White space always sets
tokens apart, except that a comment ends only with its line (`apart_of_ended`). -/

namespace RegisterMap.Definition

/-- The rest of an identifier: parts, and dashes that stand right before a part. -/
inductive IdentifierTail : List Char → Prop where
  | nil : IdentifierTail []
  | part {c : Char} {cs : List Char} (part : isIdentifierPart c = true) (tail : IdentifierTail cs) :
      IdentifierTail (c :: cs)
  | dash {c : Char} {cs : List Char} (part : isIdentifierPart c = true) (tail : IdentifierTail cs) :
      IdentifierTail ('-' :: c :: cs)

/-- The letters after a leading zero that announce another base. -/
def baseMarks : List (Char × Nat) :=
  [('x', 16), ('X', 16), ('b', 2), ('B', 2), ('o', 8), ('O', 8)]

/-- The texts of each token class. -/
inductive IsToken : TokenClass → List Char → Prop where
  | comment {body : List Char} (line : ∀ c ∈ body, c ≠ '\r' ∧ c ≠ '\n') :
      IsToken .comment ('/' :: '/' :: body)
  | identifier {c : Char} {cs : List Char} (start : isIdentifierStart c = true)
      (tail : IdentifierTail cs) : IsToken .identifier (c :: cs)
  | based {mark : Char} {base : Nat} {digits : List Char} (marked : (mark, base) ∈ baseMarks)
      (nonempty : digits ≠ []) (proper : ∀ c ∈ digits, isDigitOf base c = true) :
      IsToken .number ('0' :: mark :: digits)
  | decimal {digits : List Char} (nonempty : digits ≠ [])
      (proper : ∀ c ∈ digits, isDigitOf 10 c = true) : IsToken .number digits
  | punctuation {c : Char} (mark : isPunctuation c = true) : IsToken .punctuation [c]
  | blank {cs : List Char} (nonempty : cs ≠ []) (proper : ∀ c ∈ cs, isTokenBlank c = true) :
      IsToken .blank cs

/-- The token is no part of a longer one: no token of its class goes on into the text behind it. -/
def Apart (c : TokenClass) (x after : List Char) : Prop :=
  ∀ y, IsToken c y → y <+: x ++ after → y.length ≤ x.length

/-! ## Character classes -/

theorem isIdentifierStart_iff (c : Char) : isIdentifierStart c = true ↔
    (97 ≤ c.toNat ∧ c.toNat ≤ 122) ∨ (65 ≤ c.toNat ∧ c.toNat ≤ 90) ∨ c.toNat = 95 := by
  have underscore : c = '_' ↔ c.toNat = 95 := by
    rw [← Char.toNat_inj]
    rfl
  simp only [isIdentifierStart, Bool.or_eq_true, Bool.and_eq_true, decide_eq_true_eq, beq_iff_eq,
    underscore, or_assoc]
  rfl

theorem isIdentifierPart_iff (c : Char) : isIdentifierPart c = true ↔
    isIdentifierStart c = true ∨ 48 ≤ c.toNat ∧ c.toNat ≤ 57 := by
  simp only [isIdentifierPart, Bool.or_eq_true, Bool.and_eq_true, decide_eq_true_eq]
  rfl

theorem digitValue?_eq_some {c : Char} {d : Nat} (digit : Numeral.digitValue? c = some d) :
    48 ≤ c.toNat ∧ (d < 10 → c.toNat ≤ 57) := by
  have zero : '0' ≤ c ↔ 48 ≤ c.toNat := Iff.rfl
  have nine : c ≤ '9' ↔ c.toNat ≤ 57 := Iff.rfl
  have lower : 'a' ≤ c ↔ 97 ≤ c.toNat := Iff.rfl
  have upper : 'A' ≤ c ↔ 65 ≤ c.toNat := Iff.rfl
  simp only [Numeral.digitValue?, zero, nine, lower, upper] at digit
  split_ifs at digit <;> cases digit <;> omega

theorem isDigitOf_ten_iff (c : Char) : isDigitOf 10 c = true ↔ 48 ≤ c.toNat ∧ c.toNat ≤ 57 := by
  have zero : '0' ≤ c ↔ 48 ≤ c.toNat := Iff.rfl
  have nine : c ≤ '9' ↔ c.toNat ≤ 57 := Iff.rfl
  constructor
  · intro proper
    unfold isDigitOf at proper
    split at proper
    · next d digit =>
      obtain ⟨above, below⟩ := digitValue?_eq_some digit
      exact ⟨above, below (by simpa using proper)⟩
    · cases proper
  · rintro ⟨above, below⟩
    rw [isDigitOf, Numeral.digitValue?, if_pos ⟨zero.2 above, nine.2 below⟩]
    simp only [decide_eq_true_eq]
    omega

theorem isPunctuation_iff (c : Char) : isPunctuation c = true ↔
    c.toNat ∈ [123, 125, 40, 41, 91, 93, 59, 58, 44, 61, 45] := by
  have marks : "\x7b\x7d()[];:,=-".toList =
      ['\x7b', '\x7d', '(', ')', '[', ']', ';', ':', ',', '=', '-'] := rfl
  simp only [isPunctuation, marks, List.contains_iff_mem, List.mem_cons, ← Char.toNat_inj,
    List.not_mem_nil, or_false]
  rfl

theorem isTokenBlank_iff (c : Char) :
    isTokenBlank c = true ↔ c.toNat ∈ [9, 10, 12, 13, 32] := by
  simp only [isTokenBlank, Bool.or_eq_true, beq_iff_eq, ← Char.toNat_inj, List.mem_cons,
    List.not_mem_nil, or_false, or_assoc]
  rfl

/-! ## The first character decides the class -/

theorem lexeme?_of_identifierStart {c : Char} (start : isIdentifierStart c = true)
    (rest : List Char) : lexeme? (c :: rest) = some (.identifier, c :: identifierRest rest) := by
  have slash : c ≠ '/' := by
    rintro rfl
    cases start
  simp [lexeme?, slash, start]

theorem lexeme?_of_digit {c : Char} (digit : isDigitOf 10 c = true) (rest : List Char) :
    lexeme? (c :: rest) = some (.number, numberLexeme (c :: rest)) := by
  have range := (isDigitOf_ten_iff c).1 digit
  have slash : c ≠ '/' := by
    rintro rfl
    cases digit
  have start : ¬ isIdentifierStart c = true := by
    rw [isIdentifierStart_iff]
    omega
  simp [lexeme?, slash, start, digit]

theorem lexeme?_of_punctuation {c : Char} (mark : isPunctuation c = true) (rest : List Char) :
    lexeme? (c :: rest) = some (.punctuation, [c]) := by
  have range := (isPunctuation_iff c).1 mark
  simp only [List.mem_cons, List.not_mem_nil, or_false] at range
  have slash : c ≠ '/' := by
    rintro rfl
    cases mark
  have start : ¬ isIdentifierStart c = true := by
    rw [isIdentifierStart_iff]
    omega
  have digit : ¬ isDigitOf 10 c = true := by
    rw [isDigitOf_ten_iff]
    omega
  simp [lexeme?, slash, start, digit, mark]

theorem lexeme?_of_blank {c : Char} (blank : isTokenBlank c = true) (rest : List Char) :
    lexeme? (c :: rest) = some (.blank, (c :: rest).takeWhile isTokenBlank) := by
  have range := (isTokenBlank_iff c).1 blank
  simp only [List.mem_cons, List.not_mem_nil, or_false] at range
  have slash : c ≠ '/' := by
    rintro rfl
    cases blank
  have start : ¬ isIdentifierStart c = true := by
    rw [isIdentifierStart_iff]
    omega
  have digit : ¬ isDigitOf 10 c = true := by
    rw [isDigitOf_ten_iff]
    omega
  have mark : ¬ isPunctuation c = true := by
    rw [isPunctuation_iff]
    simp only [List.mem_cons, List.not_mem_nil, or_false]
    omega
  simp [lexeme?, slash, start, digit, mark, blank]

/-- Where a token of a class starts, the scanner takes some token of that class. -/
theorem IsToken.exists_lexeme? {c : TokenClass} {x cs : List Char} (token : IsToken c x)
    (front : x <+: cs) : ∃ y, lexeme? cs = some (c, y) := by
  obtain ⟨after, rfl⟩ := front
  cases token with
  | comment line => exact ⟨_, rfl⟩
  | identifier start tail => exact ⟨_, lexeme?_of_identifierStart start _⟩
  | based marked nonempty proper => exact ⟨_, lexeme?_of_digit (by decide) _⟩
  | decimal nonempty proper =>
    cases x with
    | nil => exact absurd rfl nonempty
    | cons c cs => exact ⟨_, lexeme?_of_digit (proper c List.mem_cons_self) _⟩
  | punctuation mark => exact ⟨_, lexeme?_of_punctuation mark _⟩
  | blank nonempty proper =>
    cases x with
    | nil => exact absurd rfl nonempty
    | cons c cs => exact ⟨_, lexeme?_of_blank (proper c List.mem_cons_self) _⟩

theorem IsToken.class_unique {c c' : TokenClass} {x : List Char} (left : IsToken c x)
    (right : IsToken c' x) : c = c' := by
  obtain ⟨y, first⟩ := left.exists_lexeme? List.prefix_rfl
  obtain ⟨z, second⟩ := right.exists_lexeme? List.prefix_rfl
  rw [first] at second
  cases second
  rfl

/-! ## The longest token -/

theorem prefix_takeWhile {p : Char → Bool} {y cs : List Char} (proper : ∀ c ∈ y, p c = true)
    (front : y <+: cs) : y <+: cs.takeWhile p := by
  obtain ⟨after, rfl⟩ := front
  rw [List.takeWhile_append_of_pos proper]
  exact List.prefix_append _ _

theorem identifierRest_prefix (cs : List Char) : identifierRest cs <+: cs := by
  fun_induction identifierRest cs with
  | case1 c cs part ih => simpa using ih
  | case2 c cs part => exact List.nil_prefix
  | case3 c cs other part ih => simpa using ih
  | case4 c cs other part => exact List.nil_prefix
  | case5 => exact List.nil_prefix

theorem identifierTail_identifierRest (cs : List Char) : IdentifierTail (identifierRest cs) := by
  fun_induction identifierRest cs with
  | case1 c cs part ih => exact .dash part ih
  | case2 c cs part => exact .nil
  | case3 c cs other part ih => exact .part part ih
  | case4 c cs other part => exact .nil
  | case5 => exact .nil

theorem IdentifierTail.prefix_identifierRest {y cs : List Char} (tail : IdentifierTail y)
    (front : y <+: cs) : y <+: identifierRest cs := by
  induction tail generalizing cs with
  | nil => exact List.nil_prefix
  | @part c y part tail ih =>
    obtain ⟨after, rfl⟩ := front
    have dash : c ≠ '-' := by
      rintro rfl
      cases part
    have rest : identifierRest (c :: (y ++ after)) = c :: identifierRest (y ++ after) := by
      rw [identifierRest.eq_2 _ _ (fun _ _ same => absurd same dash), if_pos part]
    rw [List.cons_append, rest, List.prefix_cons_inj]
    exact ih (List.prefix_append _ _)
  | @dash c y part tail ih =>
    obtain ⟨after, rfl⟩ := front
    rw [List.cons_append, List.cons_append, identifierRest, if_pos part, List.prefix_cons_inj,
      List.prefix_cons_inj]
    exact ih (List.prefix_append _ _)

/-- The base that a mark announces, none being zero. -/
def baseOf (mark : Char) : Nat :=
  if mark == 'x' || mark == 'X' then 16
  else if mark == 'b' || mark == 'B' then 2
  else if mark == 'o' || mark == 'O' then 8 else 0

theorem baseOf_of_mem {mark : Char} {base : Nat} (marked : (mark, base) ∈ baseMarks) :
    baseOf mark = base := by
  simp only [baseMarks, List.mem_cons, Prod.mk.injEq, List.not_mem_nil, or_false] at marked
  rcases marked with ⟨rfl, rfl⟩ | ⟨rfl, rfl⟩ | ⟨rfl, rfl⟩ | ⟨rfl, rfl⟩ | ⟨rfl, rfl⟩ | ⟨rfl, rfl⟩ <;>
    rfl

theorem mem_baseMarks_of_digit {mark c : Char} (digit : isDigitOf (baseOf mark) c = true) :
    (mark, baseOf mark) ∈ baseMarks := by
  unfold baseOf at digit ⊢
  split_ifs at digit ⊢ with hex binary octal
  · simpa [baseMarks] using hex
  · simpa [baseMarks] using binary
  · simpa [baseMarks] using octal
  · unfold isDigitOf at digit
    split at digit <;> simp at digit

theorem numberLexeme_cases (cs : List Char) :
    (∃ mark c rest, cs = '0' :: mark :: c :: rest ∧ isDigitOf (baseOf mark) c = true ∧
      numberLexeme cs = '0' :: mark :: (c :: rest).takeWhile (isDigitOf (baseOf mark))) ∨
    (¬ ∃ mark c rest, cs = '0' :: mark :: c :: rest ∧ isDigitOf (baseOf mark) c = true) ∧
      numberLexeme cs = cs.takeWhile (isDigitOf 10) := by
  unfold numberLexeme
  split
  · next mark c rest =>
    by_cases digit : isDigitOf (baseOf mark) c = true
    · refine .inl ⟨mark, c, rest, rfl, digit, ?_⟩
      rw [List.takeWhile_cons_of_pos digit]
      exact if_pos digit
    · refine .inr ⟨?_, if_neg digit⟩
      rintro ⟨_, _, _, same, other⟩
      cases same
      exact digit other
  · next other =>
    refine .inr ⟨?_, rfl⟩
    rintro ⟨mark, c, rest, same, -⟩
    exact other mark c rest same

/-- The scanner takes the longest number literal. -/
theorem longest_numberLexeme {c : Char} {rest : List Char} (first : isDigitOf 10 c = true) :
    IsToken .number (numberLexeme (c :: rest)) ∧ numberLexeme (c :: rest) <+: c :: rest ∧
      ∀ y, IsToken .number y → y <+: c :: rest → y.length ≤ (numberLexeme (c :: rest)).length := by
  rcases numberLexeme_cases (c :: rest) with ⟨mark, d, digits, same, digit, text⟩ | ⟨other, text⟩
  · rw [text, same]
    refine ⟨.based (mem_baseMarks_of_digit digit) ?_ fun e member => List.mem_takeWhile_imp member,
      ?_, ?_⟩
    · simp [digit]
    · simpa using List.takeWhile_prefix _
    · intro y token front
      cases token with
      | @based mark' base digits' marked nonempty proper =>
        simp only [List.prefix_cons_inj, List.cons_prefix_cons] at front
        obtain ⟨rfl, front⟩ := front
        rw [← baseOf_of_mem marked] at proper
        simpa using (prefix_takeWhile proper front).length_le
      | decimal nonempty proper =>
        -- The mark is no decimal digit, so only the zero before it is taken.
        have mark : isDigitOf 10 mark = false := by
          have marked := mem_baseMarks_of_digit digit
          simp only [baseMarks, List.mem_cons, Prod.mk.injEq, List.not_mem_nil, or_false] at marked
          rcases marked with ⟨rfl, -⟩ | ⟨rfl, -⟩ | ⟨rfl, -⟩ | ⟨rfl, -⟩ | ⟨rfl, -⟩ | ⟨rfl, -⟩ <;> rfl
        have short := (prefix_takeWhile proper front).length_le
        rw [List.takeWhile_cons_of_pos (by decide), List.takeWhile_cons_of_neg (by simp [mark])]
          at short
        exact short.trans (by simp)
  · rw [text]
    refine ⟨.decimal (by simp [first]) fun e member => List.mem_takeWhile_imp member,
      List.takeWhile_prefix _, ?_⟩
    intro y token front
    cases token with
    | @based mark base digits marked nonempty proper =>
      -- The digit after the mark would have made the first case apply.
      obtain ⟨d, digits, rfl⟩ := List.exists_cons_of_ne_nil nonempty
      obtain ⟨after, same⟩ := front
      refine absurd ⟨mark, d, digits ++ after, same.symm, ?_⟩ other
      rw [baseOf_of_mem marked]
      exact proper d List.mem_cons_self
    | decimal nonempty proper => exact (prefix_takeWhile proper front).length_le

/-- The scanner takes a token that starts the text and is the longest one of its class there. -/
theorem isToken_of_lexeme? {cs x : List Char} {c : TokenClass} (taken : lexeme? cs = some (c, x)) :
    IsToken c x ∧ x <+: cs ∧ ∀ y, IsToken c y → y <+: cs → y.length ≤ x.length := by
  unfold lexeme? at taken
  split at taken
  · cases taken
  · next d rest =>
    split_ifs at taken with slash start digit mark blank
    · split at taken
      · next body =>
        cases taken
        subst slash
        refine ⟨.comment ?_, by simpa using List.takeWhile_prefix _, ?_⟩
        · intro e member
          simpa using List.mem_takeWhile_imp member
        · intro y token front
          cases token with
          | comment line =>
            simp only [List.prefix_cons_inj] at front
            simpa using (prefix_takeWhile (p := fun e => e != '\r' && e != '\n')
              (fun e member => by simpa using line e member) front).length_le
      · cases taken
    · cases taken
      refine ⟨.identifier start (identifierTail_identifierRest rest),
        by simpa using identifierRest_prefix rest, ?_⟩
      intro y token front
      cases token with
      | identifier _ tail =>
        obtain ⟨-, front⟩ := List.cons_prefix_cons.1 front
        simpa using (tail.prefix_identifierRest front).length_le
    · cases taken
      exact longest_numberLexeme digit
    · cases taken
      refine ⟨.punctuation mark, by simp, ?_⟩
      intro y token front
      cases token with
      | punctuation _ => exact le_rfl
    · cases taken
      refine ⟨.blank (by simp [blank]) fun e member => List.mem_takeWhile_imp member,
        List.takeWhile_prefix _, ?_⟩
      intro y token front
      cases token with
      | blank _ proper => exact (prefix_takeWhile proper front).length_le

/-- At each place the scanner takes the one token that is apart from the text behind it. -/
theorem lexeme?_append_iff {c : TokenClass} {x after : List Char} :
    lexeme? (x ++ after) = some (c, x) ↔ IsToken c x ∧ Apart c x after := by
  constructor
  · intro taken
    obtain ⟨token, -, longest⟩ := isToken_of_lexeme? taken
    exact ⟨token, longest⟩
  · rintro ⟨token, apart⟩
    obtain ⟨y, taken⟩ := token.exists_lexeme? (List.prefix_append x after)
    obtain ⟨tokenY, front, longest⟩ := isToken_of_lexeme? taken
    have shorter := longest x token (List.prefix_append x after)
    -- Both start the text and neither is longer than the other.
    have same : y = x :=
      (List.prefix_of_prefix_length_le front (List.prefix_append x after)
        (apart y tokenY front)).eq_of_length (le_antisymm (apart y tokenY front) shorter)
    rw [taken, same]

/-! ## White space sets tokens apart -/

/-- The characters that end any token of a class: a line end for a comment, anything else for white
    space, and white space for all others. -/
def endsToken : TokenClass → Char → Bool
  | .comment, c => c == '\r' || c == '\n'
  | .blank, c => !isTokenBlank c
  | _, c => isTokenBlank c

theorem isTokenBlank_eq_false {c : Char} (above : 32 < c.toNat) : isTokenBlank c = false := by
  rw [Bool.eq_false_iff, ne_eq, isTokenBlank_iff]
  simp only [List.mem_cons, List.not_mem_nil, or_false]
  omega

theorem isIdentifierPart_above {c : Char} (part : isIdentifierPart c = true) : 32 < c.toNat := by
  rw [isIdentifierPart_iff, isIdentifierStart_iff] at part
  omega

theorem isDigitOf_above {base : Nat} {c : Char} (proper : isDigitOf base c = true) :
    32 < c.toNat := by
  unfold isDigitOf at proper
  split at proper
  · next d digit =>
    obtain ⟨above, -⟩ := digitValue?_eq_some digit
    omega
  · cases proper

theorem IdentifierTail.part_or_dash {cs : List Char} (tail : IdentifierTail cs) {e : Char}
    (member : e ∈ cs) : isIdentifierPart e = true ∨ e = '-' := by
  induction tail with
  | nil => cases member
  | part part _ ih =>
    rcases List.mem_cons.1 member with rfl | member
    · exact .inl part
    · exact ih member
  | dash part _ ih =>
    rcases List.mem_cons.1 member with rfl | member
    · exact .inr rfl
    · rcases List.mem_cons.1 member with rfl | member
      · exact .inl part
      · exact ih member

/-- The characters of an identifier. -/
theorem IsToken.part_or_dash {x : List Char} (token : IsToken .identifier x) {e : Char}
    (member : e ∈ x) : isIdentifierPart e = true ∨ e = '-' := by
  cases token with
  | identifier start tail =>
    rcases List.mem_cons.1 member with rfl | member
    · exact .inl (by rw [isIdentifierPart_iff]; exact .inl start)
    · exact tail.part_or_dash member

theorem IsToken.endsToken_eq_false {c : TokenClass} {x : List Char} (token : IsToken c x) {e : Char}
    (member : e ∈ x) : endsToken c e = false := by
  cases token with
  | comment line =>
    simp only [List.mem_cons] at member
    rcases member with rfl | rfl | member
    · rfl
    · rfl
    · simpa [endsToken] using line e member
  | identifier start tail =>
    apply isTokenBlank_eq_false
    rcases (IsToken.identifier start tail).part_or_dash member with part | rfl
    · exact isIdentifierPart_above part
    · decide
  | @based mark base digits marked nonempty proper =>
    apply isTokenBlank_eq_false
    simp only [List.mem_cons] at member
    rcases member with rfl | rfl | member
    · decide
    · simp only [baseMarks, List.mem_cons, Prod.mk.injEq, List.not_mem_nil, or_false] at marked
      rcases marked with ⟨rfl, -⟩ | ⟨rfl, -⟩ | ⟨rfl, -⟩ | ⟨rfl, -⟩ | ⟨rfl, -⟩ | ⟨rfl, -⟩ <;> decide
    · exact isDigitOf_above (proper e member)
  | decimal nonempty proper => exact isTokenBlank_eq_false (isDigitOf_above (proper e member))
  | punctuation mark =>
    apply isTokenBlank_eq_false
    rw [isPunctuation_iff] at mark
    simp only [List.mem_cons, List.not_mem_nil, or_false] at mark
    cases List.mem_singleton.1 member
    omega
  | blank nonempty proper => simp [endsToken, proper e member]

theorem endsToken_newline {c : TokenClass} (solid : c ≠ .blank) : endsToken c '\n' = true := by
  cases c with
  | blank => exact absurd rfl solid
  | _ => rfl

/-- A token stands apart from nothing, and from a text whose first character ends it. -/
theorem apart_of_ended {c : TokenClass} {x after : List Char}
    (ended : ∀ e ∈ after.head?, endsToken c e = true) : Apart c x after := by
  intro y token front
  cases after with
  | nil => simpa using front.length_le
  | cons e after =>
    -- A longer token would contain the character that ends it.
    by_contra longer
    have next : x ++ [e] <+: x ++ e :: after := by simp
    have inside : x ++ [e] <+: y :=
      List.prefix_of_prefix_length_le next front (by simpa using Nat.lt_of_not_le longer)
    have member : e ∈ y := inside.subset (by simp)
    have ends := ended e rfl
    rw [token.endsToken_eq_false member] at ends
    cases ends

end RegisterMap.Definition
