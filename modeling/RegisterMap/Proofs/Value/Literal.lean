import RegisterMap.Proofs.Numeral.Reading
import RegisterMap.Proofs.Value.Integer

/-! # Integer values from literals

Every text is classified for an integer kind (`parse?_cases`): it is a literal of a number of the
kind and gives that number, or it is out of range, or it is malformed. Out of range are the literals
of other numbers, and all texts that start like a literal with more bits than the kind has, since
the reader stops there. A sign belongs to the literals of signed kinds alone. -/

namespace RegisterMap

namespace Kind

/-- The text is a literal of the number as an integer kind takes it: with a sign only if the kind
    is signed. -/
inductive Spells (kind : Kind) (i : Int) (text : List Char) : Prop where
  | signed (signed : kind.isSigned = true) (spelled : Numeral.SpellsInteger i text)
  | unsigned {n : Nat} (unsigned : kind.isUnsigned = true) (spelled : Numeral.SpellsNatural n text)
      (number : i = n)

/-- The text starts like a literal that has more bits than the integer kind. -/
def Overflows (kind : Kind) (text : List Char) : Prop :=
  Numeral.StartsBeyond kind.bits (if kind.isSigned then Numeral.withoutSign text else text)

variable {kind : Kind}

theorem one_lt_bits (integer : kind.IsInteger) : 1 < kind.bits := by
  cases kind <;> simp_all [IsInteger, isSigned, isUnsigned, bits, size]

theorem represents_iff_inWidth (signed : kind.isSigned = true) {i : Int} :
    kind.Represents i ↔ Numeral.InWidth kind.bits i := by
  rw [Represents, if_pos signed, Numeral.InWidth, Int.le_sub_one_iff]

theorem represents_natCast_iff (unsigned : kind.isUnsigned = true) {n : Nat} :
    kind.Represents n ↔ n < 2 ^ kind.bits := by
  rw [Represents, if_neg (IsInteger.not_signed unsigned), Int.le_sub_one_iff]
  constructor
  · intro range
    exact_mod_cast range.2
  · intro small
    exact ⟨by omega, by exact_mod_cast small⟩

end Kind

namespace Value

open Numeral (Reading readSigned readUnsigned)

variable {kind : Kind} {text : String}

/-! ## From readings -/

theorem parse?_signed (signed : kind.isSigned = true) :
    parse? kind text =
      match (readSigned text.toList kind.bits).fault with
      | some fault => .error (literalError kind text fault)
      | none => ofInt? kind (readSigned text.toList kind.bits).value :=
  if_pos signed

theorem parse?_unsigned (unsigned : kind.isUnsigned = true) :
    parse? kind text =
      match (readUnsigned text.toList kind.bits).fault with
      | some fault => .error (literalError kind text fault)
      | none => ofNat? kind (readUnsigned text.toList kind.bits).value :=
  (if_neg (Kind.IsInteger.not_signed unsigned)).trans (if_pos unsigned)

/-! ## Each class of texts -/

/-- A literal of a number of the kind gives that number. -/
theorem parse?_of_spells (integer : kind.IsInteger) {i : Int} (spelled : kind.Spells i text.toList)
    (represented : kind.Represents i) :
    parse? kind text = .ok ⟨kind, (i % 2 ^ kind.bits).toNat⟩ := by
  obtain ⟨positive, narrow⟩ := integer.bits_range
  have made := (ofInt?_eq_ok_iff integer).2 ⟨represented, rfl⟩
  cases spelled with
  | signed signed spelled =>
    have read := spelled.readSigned_eq narrow positive ((Kind.represents_iff_inWidth signed).1
      represented)
    rw [parse?_signed signed, read]
    exact made
  | @unsigned n unsigned spelled number =>
    subst number
    have small := (Kind.represents_natCast_iff unsigned).1 represented
    have read := (Numeral.readUnsigned_eq_ok_iff positive narrow).2 ⟨spelled, small⟩
    rw [parse?_unsigned unsigned, read]
    exact (ofNat?_eq_ofInt? integer n).trans made

theorem parse?_of_overflows (integer : kind.IsInteger) (beyond : kind.Overflows text.toList) :
    parse? kind text = .error (.valueRange kind text) := by
  obtain ⟨positive, narrow⟩ := integer.bits_range
  by_cases signed : kind.isSigned = true
  · rw [Kind.Overflows, if_pos signed] at beyond
    have fault := (Numeral.readSigned_of_beyond narrow positive beyond).resolve_left
      fun single => (Kind.one_lt_bits integer).ne' single.1
    rw [parse?_signed signed, fault]
    rfl
  · rw [Kind.Overflows, if_neg signed] at beyond
    rw [parse?_unsigned (integer.unsigned signed), beyond.readUnsigned_eq positive narrow]
    rfl

theorem parse?_of_outside (integer : kind.IsInteger) {i : Int}
    (spelled : kind.Spells i text.toList) (outside : ¬ kind.Represents i) :
    parse? kind text = .error (.valueRange kind text) := by
  obtain ⟨positive, narrow⟩ := integer.bits_range
  cases spelled with
  | signed signed spelled =>
    have fault := (spelled.readSigned_of_outside narrow positive
      (fun inside => outside ((Kind.represents_iff_inWidth signed).2 inside))).resolve_left
      fun single => (Kind.one_lt_bits integer).ne' single.1
    rw [parse?_signed signed, fault]
    rfl
  | unsigned unsigned spelled number =>
    subst number
    have large := fun small => outside ((Kind.represents_natCast_iff unsigned).2 small)
    rw [parse?_unsigned unsigned, spelled.readUnsigned_eq positive narrow, Reading.within,
      if_neg large]
    rfl

/-- Every other text is malformed. -/
theorem parse?_of_neither (integer : kind.IsInteger) (none : ∀ i, ¬ kind.Spells i text.toList)
    (within : ¬ kind.Overflows text.toList) :
    parse? kind text = .error (.malformedValue kind text) := by
  obtain ⟨positive, narrow⟩ := integer.bits_range
  by_cases signed : kind.isSigned = true
  · rw [Kind.Overflows, if_pos signed] at within
    rcases Numeral.readSigned_cases narrow positive text.toList with
      ⟨i, spelled, -⟩ | ⟨⟨i, spelled, -⟩ | beyond, -⟩ | ⟨-, malformed⟩ | ⟨single, -⟩
    · exact absurd (.signed signed spelled) (none i)
    · exact absurd (.signed signed spelled) (none i)
    · exact absurd beyond within
    · rw [parse?_signed signed, malformed]
      rfl
    · exact absurd single (Kind.one_lt_bits integer).ne'
  · have unsigned := integer.unsigned signed
    rw [Kind.Overflows, if_neg signed] at within
    rcases Numeral.readUnsigned_cases positive narrow text.toList with
      ⟨n, spelled⟩ | beyond | malformed
    · exact absurd (.unsigned unsigned spelled rfl) (none n)
    · exact absurd beyond within
    · rw [parse?_unsigned unsigned, malformed]
      rfl

/-- A text that starts with a sign is malformed for an unsigned kind. -/
theorem parse?_of_sign (unsigned : kind.isUnsigned = true) {sign : Char} {rest : List Char}
    (isSign : sign = '+' ∨ sign = '-') (starts : text.toList = sign :: rest) :
    parse? kind text = .error (.malformedValue kind text) := by
  have notSigned := Kind.IsInteger.not_signed unsigned
  apply parse?_of_neither (.inr unsigned)
  · intro i spelled
    rw [starts] at spelled
    cases spelled with
    | signed signed => exact notSigned signed
    | unsigned _ spelled => exact Numeral.not_spellsNatural_sign isSign rest spelled
  · rw [Kind.Overflows, if_neg notSigned, starts]
    exact Numeral.not_startsBeyond_sign isSign rest

/-! ## All texts -/

theorem parse?_cases (integer : kind.IsInteger) (text : String) :
    (∃ i, kind.Spells i text.toList ∧ kind.Represents i ∧
      parse? kind text = .ok ⟨kind, (i % 2 ^ kind.bits).toNat⟩) ∨
    (((∃ i, kind.Spells i text.toList ∧ ¬ kind.Represents i) ∨ kind.Overflows text.toList) ∧
      parse? kind text = .error (.valueRange kind text)) ∨
    ((∀ i, ¬ kind.Spells i text.toList) ∧ ¬ kind.Overflows text.toList ∧
      parse? kind text = .error (.malformedValue kind text)) := by
  by_cases literal : ∃ i, kind.Spells i text.toList
  · obtain ⟨i, spelled⟩ := literal
    by_cases represented : kind.Represents i
    · exact .inl ⟨i, spelled, represented, parse?_of_spells integer spelled represented⟩
    · exact .inr (.inl ⟨.inl ⟨i, spelled, represented⟩,
        parse?_of_outside integer spelled represented⟩)
  · have none : ∀ i, ¬ kind.Spells i text.toList := not_exists.1 literal
    by_cases beyond : kind.Overflows text.toList
    · exact .inr (.inl ⟨.inr beyond, parse?_of_overflows integer beyond⟩)
    · exact .inr (.inr ⟨none, beyond, parse?_of_neither integer none beyond⟩)

/-- Reading a text as an integer gives a value, a range error or a syntax error, and these are the
    texts of each class. A text that starts beyond the kind is out of range even if it is no
    literal, and for an unsigned kind a sign makes every text malformed. -/
theorem parse_classifies_texts (kind : Kind) (integer : kind.IsInteger) (text : String) :
    (∀ v, parse? kind text = .ok v ↔ ∃ i, kind.Spells i text.toList ∧ kind.Represents i ∧
      v = ⟨kind, (i % 2 ^ kind.bits).toNat⟩) ∧
    (parse? kind text = .error (.valueRange kind text) ↔
      (∃ i, kind.Spells i text.toList ∧ ¬ kind.Represents i) ∨ kind.Overflows text.toList) ∧
    (parse? kind text = .error (.malformedValue kind text) ↔
      (∀ i, ¬ kind.Spells i text.toList) ∧ ¬ kind.Overflows text.toList) ∧
    (∀ e, parse? kind text = .error e → e = .valueRange kind text ∨ e = .malformedValue kind text) ∧
    (kind.isUnsigned = true → ∀ sign rest, sign = '+' ∨ sign = '-' → text.toList = sign :: rest →
      parse? kind text = .error (.malformedValue kind text)) := by
  have outcome := parse?_cases integer text
  refine ⟨?_, ⟨?_, ?_⟩, ⟨?_, ?_⟩, ?_, ?_⟩
  · intro v
    constructor
    · intro made
      rcases outcome with ⟨i, spelled, represented, read⟩ | ⟨-, refused⟩ | ⟨-, -, refused⟩
      · rw [read] at made
        cases made
        exact ⟨i, spelled, represented, rfl⟩
      · rw [refused] at made
        cases made
      · rw [refused] at made
        cases made
    · rintro ⟨i, spelled, represented, rfl⟩
      exact parse?_of_spells integer spelled represented
  · intro failed
    rcases outcome with ⟨i, -, -, read⟩ | ⟨beyond, -⟩ | ⟨-, -, refused⟩
    · rw [read] at failed
      cases failed
    · exact beyond
    · rw [refused] at failed
      cases failed
  · rintro (⟨i, spelled, outside⟩ | beyond)
    · exact parse?_of_outside integer spelled outside
    · exact parse?_of_overflows integer beyond
  · intro failed
    rcases outcome with ⟨i, -, -, read⟩ | ⟨-, refused⟩ | ⟨none, within, -⟩
    · rw [read] at failed
      cases failed
    · rw [refused] at failed
      cases failed
    · exact ⟨none, within⟩
  · rintro ⟨none, within⟩
    exact parse?_of_neither integer none within
  · intro e failed
    rcases outcome with ⟨i, -, -, read⟩ | ⟨-, refused⟩ | ⟨-, -, refused⟩
    · rw [read] at failed
      cases failed
    · rw [refused] at failed
      exact .inl (Except.error.inj failed).symm
    · rw [refused] at failed
      exact .inr (Except.error.inj failed).symm
  · exact fun unsigned sign rest => parse?_of_sign unsigned

theorem texts_of_uint8 :
    Kind.uint8.IsInteger ∧
      parse? .uint8 "0xF_e" = .ok ⟨.uint8, 254⟩ ∧
      parse? .uint8 "0256" = .error (.valueRange .uint8 "0256") ∧
      parse? .uint8 "+5" = .error (.malformedValue .uint8 "+5") := by
  have integer : Kind.uint8.IsInteger := .inr rfl
  have inside : Numeral.SpellsNatural 254 "0xF_e".toList :=
    .marked .hexadecimal (List.cons_ne_nil _ _)
      (.digit ⟨15, by decide, rfl⟩ (.separator ⟨14, by decide, rfl⟩ .nil)) rfl
  have outside : Numeral.SpellsNatural 256 "0256".toList := by
    refine .decimal ⟨List.cons_ne_nil _ _, ?_, rfl⟩
    simp only [show "0256".toList = ['0', '2', '5', '6'] from rfl, List.forall_mem_cons]
    exact ⟨⟨0, by decide, rfl⟩, ⟨2, by decide, rfl⟩, ⟨5, by decide, rfl⟩, ⟨6, by decide, rfl⟩,
      by simp⟩
  refine ⟨integer, ?_, ?_, ?_⟩
  · exact ((parse_classifies_texts .uint8 integer "0xF_e").1 _).2
      ⟨254, .unsigned rfl inside rfl, by decide, rfl⟩
  · exact (parse_classifies_texts .uint8 integer "0256").2.1.2
      (.inl ⟨256, .unsigned rfl outside rfl, by decide⟩)
  · exact (parse_classifies_texts .uint8 integer "+5").2.2.2.2 rfl '+' ['5'] (.inl rfl) rfl

/-- A text that is no literal is out of range, and literals with a sign are malformed. -/
theorem texts_in_wrong_class :
    ((∀ i, ¬ Numeral.SpellsInteger i "999x".toList) ∧
      parse? .uint8 "999x" = .error (.valueRange .uint8 "999x")) ∧
    (Numeral.SpellsInteger (-5) "-5".toList ∧ ¬ Kind.uint8.Represents (-5) ∧
      parse? .uint8 "-5" = .error (.malformedValue .uint8 "-5")) ∧
    (Numeral.SpellsInteger 5 "+5".toList ∧ Kind.uint8.Represents 5 ∧
      parse? .uint8 "+5" = .error (.malformedValue .uint8 "+5")) := by
  have five : Numeral.SpellsNatural 5 "5".toList :=
    .decimal ⟨List.cons_ne_nil _ _, by
      simpa only [show "5".toList = ['5'] from rfl, List.forall_mem_singleton] using
        ⟨5, by decide, rfl⟩, rfl⟩
  refine ⟨⟨?_, by decide⟩, ⟨.minus five rfl, by decide, by decide⟩,
    ⟨.plus five rfl, by decide, by decide⟩⟩
  intro i spelled
  -- As a number of 64 bits the digits are within the limit, so the letter is reached.
  obtain ⟨n, natural, -⟩ := Numeral.spellsInteger_iff.1 spelled
  have read : readUnsigned _ (64 : Nat) = .within 64 n :=
    natural.readUnsigned_eq (by decide) (by decide)
  have computed : readUnsigned (Numeral.withoutSign "999x".toList) (64 : Nat) =
      ⟨0, some .malformed⟩ := rfl
  rw [computed, Reading.within] at read
  split at read <;> simp at read

end Value

end RegisterMap
