import RegisterMap.Proofs.Value.Literal

/-! # Printed integers

The text of an integer value is a literal of its number: a signed number in decimal, and an unsigned
one both in decimal and, filled up with zeros to the width of the kind, in hexadecimal behind a
mark. So every reading of the text gives the value back (`texts_read_back`). -/

namespace RegisterMap

namespace Numeral

/-! ## Literals that are printed -/

theorem spellsNatural_decimal (n : Nat) : SpellsNatural n (decimal n).toList := by
  rw [decimal, String.toList_ofList]
  exact .decimal (isDecimal_chars n)

theorem spellsInteger_signedDecimal (i : Int) : SpellsInteger i (signedDecimal i).toList := by
  have magnitude := spellsNatural_decimal i.natAbs
  rw [signedDecimal]
  split_ifs with negative
  · rw [String.toList_append]
    exact .minus magnitude (by omega)
  · exact .plain magnitude (by omega)

/-- The digits of hexadecimal numbers as they are printed. -/
def upperDigits : List Char :=
  "0123456789ABCDEF".toList

theorem digitChar_mem_upperDigits {d : Nat} (small : d < 16) : digitChar d ∈ upperDigits := by
  interval_cases d <;> decide

theorem spellsNatural_hexPadded {width n : Nat} (wide : 0 < width) (fits : n < 16 ^ width) :
    (hexPadded width n).toList.length = width ∧
      (∀ c ∈ (hexPadded width n).toList, c ∈ upperDigits) ∧
      SpellsNatural n ("0x" ++ hexPadded width n).toList := by
  obtain ⟨ds, length, proper, number, text⟩ := zeroPadded_chars (by decide) wide fits
  have digits : ∀ c ∈ ds.map digitChar, IsDigit 16 c := isDigit_of_mem_map (by decide) proper
  rw [String.toList_append, hexPadded, String.toList_ofList, text]
  refine ⟨by rw [List.length_map, length], ?_, ?_⟩
  · intro c member
    obtain ⟨d, inside, rfl⟩ := List.mem_map.1 member
    exact digitChar_mem_upperDigits (proper d inside)
  · have nonempty : ds.map digitChar ≠ [] := by
      rw [← List.length_pos_iff, List.length_map, length]
      exact wide
    refine .marked .hexadecimal nonempty (separated_self digits) ?_
    rw [numberOf, filterMap_digitValue?_map proper, number]

end Numeral

namespace Value

/-! ## Reading a value back -/

/-- A literal of the number of a well-formed value reads as that value. -/
theorem parse?_of_spells_bits {v : Value} {text : String} (unsigned : v.kind.isUnsigned = true)
    (wellFormed : v.WellFormed) (spelled : Numeral.SpellsNatural v.bits text.toList) :
    parse? v.kind text = .ok v := by
  have small : v.bits < 2 ^ v.kind.bits := wellFormed
  rw [parse?_of_spells (.inr unsigned) (.unsigned unsigned spelled rfl)
    ((Kind.represents_natCast_iff unsigned).2 small),
    natCast_emod_toNat (by exact_mod_cast small)]

theorem parse?_signedDecimal {v : Value} (signed : v.kind.isSigned = true)
    (wellFormed : v.WellFormed) :
    parse? v.kind (Numeral.signedDecimal (signedOfBits v.kind.bits v.bits)) = .ok v := by
  obtain ⟨positive, -⟩ := Kind.IsInteger.bits_range (.inl signed)
  have inside := signedOfBits_range positive wellFormed
  rw [parse?_of_spells (.inl signed)
    (.signed signed (Numeral.spellsInteger_signedDecimal _))
    ((Kind.represents_iff_inWidth signed).2 inside), signedOfBits_emod wellFormed,
    Int.toNat_natCast]

theorem text_of_signed {v : Value} (signed : v.kind.isSigned = true) :
    v.text = Numeral.signedDecimal (signedOfBits v.kind.bits v.bits) := by
  rw [text, if_pos signed]

theorem text_of_unsigned {v : Value} (unsigned : v.kind.isUnsigned = true) :
    v.text = Numeral.decimal v.bits ++ " (0x" ++ Numeral.hexPadded (2 * v.kind.size) v.bits ++
      ")" := by
  rw [text, if_neg (Kind.IsInteger.not_signed unsigned), if_pos unsigned, Nat.mul_comm]
  rfl

theorem lt_sixteen_pow {v : Value} (wellFormed : v.WellFormed) :
    v.bits < 16 ^ (2 * v.kind.size) := by
  have width : 2 ^ v.kind.bits = 16 ^ (2 * v.kind.size) := by
    rw [Kind.two_pow_bits, pow_mul]
    rfl
  rw [← width]
  exact wellFormed

/-- The text of a signed value reads as the value; the text of an unsigned one has the form
    `D (0xH)`, with two upper-case digits for every byte, and both numbers read as the value. -/
theorem texts_read_back (v : Value) (integer : v.kind.IsInteger) (wellFormed : v.WellFormed) :
    (v.kind.isSigned = true → parse? v.kind v.text = .ok v) ∧
    (v.kind.isUnsigned = true → ∃ decimal hexadecimal : String,
      v.text = decimal ++ " (0x" ++ hexadecimal ++ ")" ∧
      Numeral.IsDecimal v.bits decimal.toList ∧
      hexadecimal.toList.length = 2 * v.kind.size ∧
      (∀ c ∈ hexadecimal.toList, c ∈ "0123456789ABCDEF".toList) ∧
      parse? v.kind decimal = .ok v ∧ parse? v.kind ("0x" ++ hexadecimal) = .ok v) := by
  constructor
  · intro signed
    rw [text_of_signed signed]
    exact parse?_signedDecimal signed wellFormed
  · intro unsigned
    have wide : 0 < 2 * v.kind.size := by
      have positive := integer.bits_range.1
      rw [Kind.bits] at positive
      omega
    obtain ⟨length, upper, spelled⟩ :=
      Numeral.spellsNatural_hexPadded wide (lt_sixteen_pow wellFormed)
    refine ⟨_, _, text_of_unsigned unsigned, ?_, length, upper,
      parse?_of_spells_bits unsigned wellFormed (Numeral.spellsNatural_decimal _),
      parse?_of_spells_bits unsigned wellFormed spelled⟩
    rw [Numeral.decimal, String.toList_ofList]
    exact Numeral.isDecimal_chars v.bits

theorem extremes_read_back :
    Kind.int8.IsInteger ∧ Kind.uint16.IsInteger ∧
      (⟨.int8, 0x80⟩ : Value).WellFormed ∧ (⟨.uint16, 0x00ab⟩ : Value).WellFormed ∧
      (⟨.int8, 0x80⟩ : Value).text = "-128" ∧
      parse? .int8 (⟨.int8, 0x80⟩ : Value).text = .ok ⟨.int8, 0x80⟩ ∧
      ∃ decimal hexadecimal : String,
        (⟨.uint16, 0x00ab⟩ : Value).text = decimal ++ " (0x" ++ hexadecimal ++ ")" ∧
        hexadecimal.toList.length = 4 ∧ parse? .uint16 decimal = .ok ⟨.uint16, 0x00ab⟩ ∧
        parse? .uint16 ("0x" ++ hexadecimal) = .ok ⟨.uint16, 0x00ab⟩ := by
  have signed : Kind.int8.IsInteger := .inl rfl
  have unsigned : Kind.uint16.IsInteger := .inr rfl
  have lowest : (⟨.int8, 0x80⟩ : Value).WellFormed := by decide
  have padded : (⟨.uint16, 0x00ab⟩ : Value).WellFormed := by decide
  obtain ⟨decimal, hexadecimal, text, -, length, -, readDecimal, readHexadecimal⟩ :=
    (texts_read_back ⟨.uint16, 0x00ab⟩ unsigned padded).2 rfl
  exact ⟨signed, unsigned, lowest, padded, by decide,
    (texts_read_back ⟨.int8, 0x80⟩ signed lowest).1 rfl, decimal, hexadecimal, text, length,
    readDecimal, readHexadecimal⟩

end Value

end RegisterMap
