import RegisterMap.Bytes.HexText
import RegisterMap.Proofs.Numeral.Digits

/-! # Hexadecimal payloads

`Spells texts bytes` says what texts mean: without the separators they are the digits of the bytes,
two for each. Reading gives the bytes that the texts spell, the printed form of bytes spells them
wherever it is cut at its blanks, and texts in a row spell what each of them spells in a row. -/

namespace RegisterMap.HexText

/-- The digits have the values of the upper and the lower half of each byte. -/
def IsHexOf (digits : List Char) (bytes : Bytes) : Prop :=
  digits.map digit? = bytes.flatMap fun b => [some (b.toNat / 16), some (b.toNat % 16)]

/-- The characters that count. -/
def solid (cs : List Char) : List Char :=
  cs.filter fun c => !isSeparator c

/-- The texts together are the digits of the bytes. -/
def Spells (texts : List String) (bytes : Bytes) : Prop :=
  IsHexOf (solid (texts.flatMap String.toList)) bytes

/-! ## Reading -/

theorem byte_halves (b : UInt8) : UInt8.ofNat (16 * (b.toNat / 16) + b.toNat % 16) = b := by
  rw [Nat.div_add_mod, UInt8.ofNat_toNat]

theorem decode_of_isHexOf {digits : List Char} {bytes : Bytes} (digital : IsHexOf digits bytes) :
    decode digits = .ok bytes := by
  induction bytes generalizing digits with
  | nil =>
    rw [List.map_eq_nil_iff.1 digital]
    rfl
  | cons b bytes ih =>
    -- The pair in front is the first byte, and what follows spells the others.
    obtain ⟨upper, rest, rfl, first, digital⟩ := List.map_eq_cons_iff.1 digital
    obtain ⟨lower, rest, rfl, second, digital⟩ := List.map_eq_cons_iff.1 digital
    simp only [decode, first, second, ih digital, byte_halves]

theorem length_le_of_decode {digits : List Char} {bytes : Bytes}
    (decoded : decode digits = .ok bytes) : bytes.length ≤ digits.length := by
  fun_induction decode digits generalizing bytes with
  | case1 =>
    cases decoded
    rfl
  | case7 c d cs a b _ _ bytes rest ih =>
    cases decoded
    have shorter := ih rest
    simp only [List.length_cons]
    omega
  | _ => cases decoded

theorem length_withoutMark_le (a b : Char) (cs : List Char) :
    (withoutMark a b cs).length ≤ cs.length := by
  fun_cases withoutMark a b cs with
  | case1 => simp only [List.length_cons]; omega
  | _ => rfl

/-- A payload is no longer than its texts. -/
theorem length_le_of_parse {texts : List String} {bytes : Bytes} (read : parse texts = .ok bytes) :
    bytes.length ≤ (texts.flatMap String.toList).length := by
  calc bytes.length
      ≤ (digitsOf (texts.flatMap String.toList)).length := length_le_of_decode read
    _ ≤ _ := length_withoutMark_le _ _ _
    _ ≤ _ := length_withoutMark_le _ _ _
    _ ≤ _ := List.length_filter_le _ _

theorem IsHexOf.digit?_ne_none {digits : List Char} {bytes : Bytes}
    (digital : IsHexOf digits bytes) {c : Char} (member : c ∈ digits) : digit? c ≠ none := by
  have value : digit? c ∈ digits.map digit? := List.mem_map_of_mem member
  rw [digital] at value
  obtain ⟨b, -, half⟩ := List.mem_flatMap.1 value
  intro absent
  simp [absent] at half

/-- The second character of a base mark is no digit, so digits do not begin with one. -/
theorem IsHexOf.withoutMark_eq {digits : List Char} {bytes : Bytes}
    (digital : IsHexOf digits bytes) {a b : Char} (letter : digit? b = none) :
    withoutMark a b digits = digits := by
  cases digits with
  | nil => rfl
  | cons c rest =>
    cases rest with
    | nil => rfl
    | cons d rest =>
      have other : d ≠ b := by
        intro same
        exact digital.digit?_ne_none (by simp) (same ▸ letter)
      simp [withoutMark, other]

theorem Spells.parse_eq {texts : List String} {bytes : Bytes} (spelled : Spells texts bytes) :
    parse texts = .ok bytes := by
  have digits : digitsOf (texts.flatMap String.toList) = solid (texts.flatMap String.toList) := by
    have lower := spelled.withoutMark_eq (a := '0') (b := 'x') rfl
    have upper := spelled.withoutMark_eq (a := '0') (b := 'X') rfl
    simp only [solid] at lower upper
    simp only [digitsOf, solid, lower, upper]
  rw [parse, digits, decode_of_isHexOf spelled]

theorem Spells.append {front back : List String} {bytes more : Bytes}
    (first : Spells front bytes) (second : Spells back more) :
    Spells (front ++ back) (bytes ++ more) := by
  simp only [Spells, IsHexOf, solid] at first second ⊢
  simp [first, second]

/-! ## Printing -/

theorem digit?_digitChar {n : Nat} (small : n < 16) : digit? (Numeral.digitChar n) = some n := by
  interval_cases n <;> rfl

theorem isSeparator_digitChar {n : Nat} (small : n < 16) :
    isSeparator (Numeral.digitChar n) = false := by
  interval_cases n <;> rfl

/-- The two printed digits of a byte. -/
def pair (b : UInt8) : List Char :=
  [Numeral.digitChar (b.toNat / 16), Numeral.digitChar (b.toNat % 16)]

theorem toList_hexPadded (b : UInt8) : (Numeral.hexPadded 2 b.toNat).toList = pair b := by
  obtain ⟨ds, length, proper, value, printed⟩ :=
    Numeral.zeroPadded_chars (show 2 ≤ 16 by omega) (show 0 < 2 by omega) b.toNat_lt
  obtain ⟨upper, lower, rfl⟩ := List.length_eq_two.1 length
  have small : lower < 16 := proper lower (by simp)
  have whole : upper * 16 + lower = b.toNat := by simpa [Numeral.ofDigits] using value
  have halves : b.toNat / 16 = upper ∧ b.toNat % 16 = lower := by omega
  rw [Numeral.hexPadded, String.toList_ofList, printed, pair, halves.1, halves.2]
  rfl

theorem solid_pair (b : UInt8) : solid (pair b) = pair b := by
  have bound := b.toNat_lt
  have upper := isSeparator_digitChar (show b.toNat / 16 < 16 by omega)
  have lower := isSeparator_digitChar (show b.toNat % 16 < 16 by omega)
  simp [solid, pair, upper, lower]

theorem map_digit?_pair (b : UInt8) :
    (pair b).map digit? = [some (b.toNat / 16), some (b.toNat % 16)] := by
  have bound := b.toNat_lt
  have upper := digit?_digitChar (show b.toNat / 16 < 16 by omega)
  have lower := digit?_digitChar (show b.toNat % 16 < 16 by omega)
  simp [pair, upper, lower]

theorem solid_intercalate (words : List String) :
    solid (" ".intercalate words).toList = solid (words.flatMap String.toList) := by
  induction words with
  | nil => rfl
  | cons word words ih =>
    cases words with
    | nil => simp
    | cons next words =>
      have blank : solid " ".toList = [] := rfl
      rw [String.intercalate_cons_of_ne_nil (by simp), List.flatMap_cons]
      simp only [solid, String.toList_append, List.filter_append] at blank ih ⊢
      rw [blank, ih, List.append_nil]

theorem solid_spacedHex (bytes : Bytes) :
    solid (Numeral.spacedHex bytes).toList = bytes.flatMap pair := by
  rw [Numeral.spacedHex, solid_intercalate]
  induction bytes with
  | nil => rfl
  | cons b bytes ih =>
    have first := solid_pair b
    simp only [solid, List.map_cons, List.flatMap_cons, List.filter_append, toList_hexPadded]
      at first ih ⊢
    rw [first, ih]

/-- The printed form of bytes spells them, as a whole and in words. -/
theorem spells_words {words : List String} {bytes : Bytes}
    (line : " ".intercalate words = Numeral.spacedHex bytes) : Spells words bytes := by
  rw [Spells, ← solid_intercalate, line, solid_spacedHex, IsHexOf, List.map_flatMap]
  simp only [map_digit?_pair]

end RegisterMap.HexText
