import Mathlib.Algebra.Order.Field.Rat
import RegisterMap.Proofs.Numeral.Digits
import RegisterMap.Proofs.Numeral.Index

/-! # Exact constants

A constant expression is a literal with at most one minus sign: a hexadecimal number, or decimal
digits with an optional fraction and exponent. It stands for an exact number (`constantNumber?`),
and since the sign is an operation on exact numbers, `-0` is zero. Digits alone that start with a
needless zero would be octal; they are refused, as are all notations that are never printed. -/

namespace RegisterMap.Numeral

instance (base : Nat) (c : Char) : Decidable (IsDigit base c) :=
  decidable_of_iff ((digitValue? c).any (· < base) = true) (by
    simp [IsDigit, Option.any_eq_true, and_comm])

/-! ## The notations -/

/-- The number of a run of digits. -/
def digitsNumber? (base : Nat) (cs : List Char) : Option Nat :=
  if cs ≠ [] ∧ cs.all (IsDigit base ·) then some (numberOf base cs) else none

/-- The exponent at the end of a literal, if there is one. -/
def exponentNumber? : List Char → Option Int
  | [] => some 0
  | 'e' :: '+' :: cs => (digitsNumber? 10 cs).map Nat.cast
  | 'e' :: '-' :: cs => (digitsNumber? 10 cs).map fun n : Nat => -(n : Int)
  | _ => none

/-- The digits behind a point, if there is one, and what follows. -/
def splitFraction : List Char → List Char × List Char
  | '.' :: cs => (cs.takeWhile (IsDigit 10 ·), cs.dropWhile (IsDigit 10 ·))
  | cs => ([], cs)

/-- The number of a decimal literal. -/
def decimalNumber? (cs : List Char) : Option ℚ :=
  let whole := cs.takeWhile (IsDigit 10 ·)
  let rest := cs.dropWhile (IsDigit 10 ·)
  let (fraction, ending) := splitFraction rest
  if rest = [] ∧ whole.head? = some '0' ∧ whole ≠ ['0'] then
    none
  else do
    let mantissa ← digitsNumber? 10 (whole ++ fraction)
    let exponent ← exponentNumber? ending
    return (mantissa : ℚ) * 10 ^ (exponent - fraction.length)

def literalNumber? : List Char → Option ℚ
  | '0' :: 'x' :: cs => (digitsNumber? 16 cs).map Nat.cast
  | cs => decimalNumber? cs

/-- The number of a constant expression. -/
def constantNumber? : List Char → Option ℚ
  | '-' :: cs => (literalNumber? cs).map fun q => -q
  | cs => literalNumber? cs

/-! ## Digits -/

theorem digitsNumber?_map {base : Nat} (narrow : base ≤ 16) {ds : List Nat} (nonempty : ds ≠ [])
    (small : ∀ d ∈ ds, d < base) :
    digitsNumber? base (ds.map digitChar) = some (ofDigits base ds) := by
  have proper : (ds.map digitChar).all (IsDigit base ·) = true := by
    simpa only [List.all_eq_true, decide_eq_true_eq] using isDigit_of_mem_map narrow small
  rw [digitsNumber?, if_pos ⟨by simpa using nonempty, proper⟩, numberOf,
    filterMap_digitValue?_map fun d member => (small d member).trans_le narrow]

/-- Zeros in front do not change the number. -/
theorem digitsNumber?_zeroPadded {base : Nat} (large : 2 ≤ base) (narrow : base ≤ 16)
    (width n : Nat) : digitsNumber? base (zeroPadded width (chars base n)) = some n := by
  rw [zeroPadded_eq_map, digitsNumber?_map narrow (by simp [digits_ne_nil]),
    ofDigits_replicate_zero, ofDigits_digits large]
  intro d member
  rcases List.mem_append.1 member with zero | digit
  · rw [List.eq_of_mem_replicate zero]
    omega
  · exact digits_lt large n d digit

/-- Only zero has a zero in front. -/
theorem digits_eq_zero {n : Nat} (leading : (digits 10 n).head? = some 0) : digits 10 n = [0] := by
  rcases Nat.eq_zero_or_pos n with rfl | positive
  · rfl
  · obtain ⟨d, ds, all, nonzero⟩ : ∃ d ds, digits 10 n = d :: ds ∧ d ≠ 0 :=
      digitsOnto_head (by decide) positive (Nat.lt_succ_self n)
    rw [all, List.head?_cons, Option.some.injEq] at leading
    exact absurd leading nonzero

theorem digitChar_eq_zero {d : Nat} (small : d < 10) (zero : digitChar d = '0') : d = 0 := by
  interval_cases d <;> first | rfl | contradiction

/-! ## Literals -/

theorem literalNumber?_hex (n : Nat) : literalNumber? ("0x" ++ hex n).toList = some (n : ℚ) := by
  have text : ("0x" ++ hex n).toList = '0' :: 'x' :: (digits 16 n).map digitChar := by
    simp [hex, chars]
  rw [text, literalNumber?, digitsNumber?_map (by decide) (digits_ne_nil 16 n)
    (digits_lt (by decide) n), ofDigits_digits (by decide), Option.map_some]

/-- A fraction with the point in front. -/
def pointed (fraction : List Char) : List Char :=
  if fraction = [] then [] else '.' :: fraction

section

variable {ending : List Char} {exponent : Int}

theorem exponentNumber?_cases (read : exponentNumber? ending = some exponent) :
    ending = [] ∨ ∃ cs, ending = 'e' :: cs := by
  unfold exponentNumber? at read
  split at read
  · exact .inl rfl
  · exact .inr ⟨_, rfl⟩
  · exact .inr ⟨_, rfl⟩
  · cases read

theorem pointed_append_eq_nil {fraction : List Char} :
    pointed fraction ++ ending = [] ↔ fraction = [] ∧ ending = [] := by
  rw [pointed, List.append_eq_nil_iff]
  split_ifs with empty <;> simp [empty]

/-- Behind the digits of a literal stands a point or the letter of the exponent. -/
theorem pointed_append_stops (read : exponentNumber? ending = some exponent)
    (fraction : List Char) :
    ∀ c ∈ (pointed fraction ++ ending).head?, c ≠ 'x' ∧ ¬ IsDigit 10 c := by
  rw [pointed]
  split_ifs with empty
  · rcases exponentNumber?_cases read with rfl | ⟨cs, rfl⟩
    · rintro c ⟨⟩
    · rintro c ⟨⟩
      exact ⟨by decide, by decide⟩
  · rintro c ⟨⟩
    exact ⟨by decide, by decide⟩

variable {front rest : List Char}

/-- Digits end where something else stands. -/
theorem span_digits (digits : ∀ c ∈ front, IsDigit 10 c)
    (stop : ∀ c ∈ rest.head?, ¬ IsDigit 10 c) :
    (front ++ rest).takeWhile (IsDigit 10 ·) = front ∧
      (front ++ rest).dropWhile (IsDigit 10 ·) = rest := by
  have digits : ∀ c ∈ front, decide (IsDigit 10 c) = true := by simpa using digits
  rw [List.takeWhile_append_of_pos digits, List.dropWhile_append_of_pos digits]
  cases rest with
  | nil => simp
  | cons c cs => simp [stop c rfl]

theorem splitFraction_pointed {fraction : List Char} (proper : ∀ c ∈ fraction, IsDigit 10 c)
    (read : exponentNumber? ending = some exponent) :
    splitFraction (pointed fraction ++ ending) = (fraction, ending) := by
  rw [pointed]
  split_ifs with empty
  · subst empty
    rcases exponentNumber?_cases read with rfl | ⟨cs, rfl⟩ <;> rfl
  · have stop : ∀ c ∈ ending.head?, ¬ IsDigit 10 c :=
      fun c head => (pointed_append_stops read [] c head).2
    obtain ⟨taken, dropped⟩ := span_digits proper stop
    rw [List.cons_append, splitFraction, taken, dropped]

/-- What goes on after its digits without an `x` is no hexadecimal literal. -/
theorem literalNumber?_of_digits (digits : ∀ c ∈ front, IsDigit 10 c)
    (stop : ∀ c ∈ rest.head?, c ≠ 'x' ∧ ¬ IsDigit 10 c) :
    literalNumber? (front ++ rest) = decimalNumber? (front ++ rest) := by
  obtain ⟨-, dropped⟩ := span_digits digits fun c head => (stop c head).2
  unfold literalNumber?
  split
  · next cs same =>
    have mark : 'x' :: cs = rest := by rwa [same] at dropped
    exact absurd rfl (stop 'x' (by rw [← mark]; rfl)).1
  · rfl

/-- A literal put together from its parts. -/
theorem literalNumber?_parts {whole fraction : List Nat} (nonempty : whole ≠ [])
    (small : ∀ d ∈ whole ++ fraction, d < 10) (read : exponentNumber? ending = some exponent)
    (leading : fraction = [] → ending = [] → whole.head? = some 0 → whole = [0]) :
    literalNumber? (whole.map digitChar ++ (pointed (fraction.map digitChar) ++ ending)) =
      some ((ofDigits 10 (whole ++ fraction) : ℚ) * 10 ^ (exponent - fraction.length)) := by
  have digits : ∀ c ∈ whole.map digitChar, IsDigit 10 c :=
    isDigit_of_mem_map (by decide) fun d member => small d (List.mem_append_left _ member)
  have stop := pointed_append_stops read (fraction.map digitChar)
  obtain ⟨taken, dropped⟩ := span_digits digits fun c head => (stop c head).2
  have split := splitFraction_pointed
    (isDigit_of_mem_map (by decide) fun d member => small d (List.mem_append_right whole member))
    read
  have mantissa : digitsNumber? 10 (whole.map digitChar ++ fraction.map digitChar) =
      some (ofDigits 10 (whole ++ fraction)) := by
    rw [← List.map_append, digitsNumber?_map (by decide) (by simp [nonempty]) small]
  have decimal : ¬ (pointed (fraction.map digitChar) ++ ending = [] ∧
      (whole.map digitChar).head? = some '0' ∧ whole.map digitChar ≠ ['0']) := by
    rintro ⟨empty, zero, longer⟩
    obtain ⟨none, done⟩ := pointed_append_eq_nil.1 empty
    obtain ⟨d, ds, rfl⟩ := List.exists_cons_of_ne_nil nonempty
    rw [List.map_cons, List.head?_cons, Option.some.injEq] at zero
    obtain rfl := digitChar_eq_zero (small d (by simp)) zero
    rw [leading (List.map_eq_nil_iff.1 none) done rfl] at longer
    exact longer rfl
  rw [literalNumber?_of_digits digits stop, decimalNumber?]
  simp only [taken, dropped, split, mantissa, read, if_neg decimal, List.length_map]
  rfl

/-- A literal without an exponent. -/
theorem literalNumber?_plain {whole fraction : List Nat} (nonempty : whole ≠ [])
    (small : ∀ d ∈ whole ++ fraction, d < 10)
    (leading : fraction = [] → whole.head? = some 0 → whole = [0]) :
    literalNumber? (whole.map digitChar ++ pointed (fraction.map digitChar)) =
      some ((ofDigits 10 (whole ++ fraction) : ℚ) * 10 ^ (-fraction.length : ℤ)) := by
  have read := literalNumber?_parts nonempty small (show exponentNumber? [] = some 0 from rfl)
    fun none _ => leading none
  rwa [List.append_nil, zero_sub] at read

end

example : literalNumber? "1.25e+02".toList = some 125 := by decide +kernel

theorem literalNumber?_decimal (n : Nat) : literalNumber? (chars 10 n) = some (n : ℚ) := by
  have small : ∀ d ∈ digits 10 n ++ [], d < 10 := by
    rw [List.append_nil]
    exact digits_lt (by decide) n
  have read := literalNumber?_plain (digits_ne_nil 10 n) small fun _ => digits_eq_zero
  simpa [chars, pointed, ofDigits_digits] using read

/-- A literal has no sign of its own. -/
theorem constantNumber?_of_literal {cs : List Char} {q : ℚ} (read : literalNumber? cs = some q) :
    constantNumber? cs = some q := by
  unfold constantNumber?
  split
  · cases read
  · exact read

theorem constantNumber?_signedDecimal (i : Int) :
    constantNumber? (signedDecimal i).toList = some (i : ℚ) := by
  have magnitude := literalNumber?_decimal i.natAbs
  rw [toList_signedDecimal]
  split_ifs with negative
  · have number : i = -(i.natAbs : ℤ) := by omega
    rw [constantNumber?, magnitude, Option.map_some, number]
    simp
  · have number : i = (i.natAbs : ℤ) := by omega
    rw [constantNumber?_of_literal magnitude, number]
    simp

end RegisterMap.Numeral
