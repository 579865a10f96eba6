import RegisterMap.Proofs.Bytes.HexText

/-! # What texts of hexadecimal digits mean

`Denotes texts bytes` says what several texts give as a payload, without the reader: joined and
without blanks, tabs and colons they are a lower-case base mark, an upper-case one and the digits of
the bytes, and either mark may be missing. Reading succeeds exactly on these texts. Since the texts
matter only joined and without separators, the digits may be cut into texts and grouped in any
way. -/

namespace RegisterMap.HexText

/-! ## Digits -/

/-- The character is the digit of the number, in lower or upper case. -/
def IsDigitFor (n : Nat) (c : Char) : Prop :=
  "0123456789abcdef".toList[n]? = some c ∨ "0123456789ABCDEF".toList[n]? = some c

/-- Two digits for each byte, the one of its upper half first. -/
inductive HexDigits : List Char → Bytes → Prop where
  | nil : HexDigits [] []
  | cons {upper lower : Char} {digits : List Char} {b : UInt8} {bytes : Bytes}
      (first : IsDigitFor (b.toNat / 16) upper) (second : IsDigitFor (b.toNat % 16) lower)
      (rest : HexDigits digits bytes) : HexDigits (upper :: lower :: digits) (b :: bytes)

/-- The value of a digit, and where its character stands in each of the three runs of digits. -/
theorem digit?_range {c : Char} {n : Nat} (digit : digit? c = some n) :
    n < 16 ∧ (c.toNat = 48 + n ∧ n < 10 ∨ c.toNat = 87 + n ∧ 10 ≤ n ∨
      c.toNat = 55 + n ∧ 10 ≤ n) := by
  have zero : '0' ≤ c ↔ 48 ≤ c.toNat := Iff.rfl
  have nine : c ≤ '9' ↔ c.toNat ≤ 57 := Iff.rfl
  have lower : 'a' ≤ c ↔ 97 ≤ c.toNat := Iff.rfl
  have upper : 'A' ≤ c ↔ 65 ≤ c.toNat := Iff.rfl
  unfold digit? Numeral.digitValue? at digit
  simp only [zero, nine, lower, upper] at digit
  split at digit
  · next d value =>
    split_ifs at digit with small
    cases digit
    split_ifs at value <;> cases value <;> omega
  · cases digit

theorem digit?_eq_some_iff {c : Char} {n : Nat} : digit? c = some n ↔ IsDigitFor n c := by
  constructor
  · intro digit
    obtain ⟨small, code⟩ := digit?_range digit
    rw [← Char.ofNat_toNat c]
    rcases code with ⟨code, range⟩ | ⟨code, range⟩ | ⟨code, range⟩ <;> rw [code]
    · left
      interval_cases n <;> rfl
    · left
      interval_cases n <;> rfl
    · right
      interval_cases n <;> rfl
  · rintro (found | found)
    all_goals
      obtain ⟨small, rfl⟩ := List.getElem?_eq_some_iff.1 found
      have bound : n < 16 := small
      interval_cases n <;> rfl

theorem HexDigits.isHexOf {digits : List Char} {bytes : Bytes} (spelled : HexDigits digits bytes) :
    IsHexOf digits bytes := by
  induction spelled with
  | nil => rfl
  | cons first second _ ih =>
    rw [IsHexOf, List.map_cons, List.map_cons, digit?_eq_some_iff.2 first,
      digit?_eq_some_iff.2 second, ih]
    rfl

theorem halves_ofNat {a b : Nat} (upper : a < 16) (lower : b < 16) :
    (UInt8.ofNat (16 * a + b)).toNat / 16 = a ∧ (UInt8.ofNat (16 * a + b)).toNat % 16 = b := by
  have whole : (UInt8.ofNat (16 * a + b)).toNat = 16 * a + b :=
    UInt8.toNat_ofNat_of_lt' (show 16 * a + b < 256 by omega)
  omega

theorem hexDigits_of_decode {digits : List Char} {bytes : Bytes}
    (decoded : decode digits = .ok bytes) : HexDigits digits bytes := by
  fun_induction decode digits generalizing bytes with
  | case1 =>
    cases decoded
    exact .nil
  | case7 c d cs a b second first bytes rest ih =>
    cases decoded
    obtain ⟨upper, lower⟩ := halves_ofNat (digit?_range first).1 (digit?_range second).1
    refine .cons ?_ ?_ (ih rest)
    · rwa [upper, ← digit?_eq_some_iff]
    · rwa [lower, ← digit?_eq_some_iff]
  | _ => cases decoded

theorem decode_eq_ok_iff {digits : List Char} {bytes : Bytes} :
    decode digits = .ok bytes ↔ HexDigits digits bytes :=
  ⟨hexDigits_of_decode, fun spelled => decode_of_isHexOf spelled.isHexOf⟩

/-! ## Texts -/

/-- What the texts are together, without blanks, tabs and colons. -/
def undivided (texts : List String) : List Char :=
  (texts.flatMap String.toList).filter (· ∉ [' ', '\t', ':'])

/-- The texts are the digits of the bytes, possibly behind `0x` and then `0X`. -/
def Denotes (texts : List String) (bytes : Bytes) : Prop :=
  ∃ lower ∈ [[], ['0', 'x']], ∃ upper ∈ [[], ['0', 'X']], ∃ digits,
    undivided texts = lower ++ (upper ++ digits) ∧ HexDigits digits bytes

theorem parse_eq (texts : List String) :
    parse texts = decode (withoutMark '0' 'X' (withoutMark '0' 'x' (undivided texts))) := by
  have separators : (fun c => !isSeparator c) = fun c : Char => decide (c ∉ [' ', '\t', ':']) := by
    funext c
    rw [Bool.eq_iff_iff]
    simp only [isSeparator, Bool.not_eq_true', Bool.or_eq_false_iff, beq_eq_false_iff_ne,
      decide_eq_true_eq, List.mem_cons, List.not_mem_nil, or_false, not_or]
    tauto
  rw [parse, digitsOf, undivided, separators]

/-- A mark is removed once, and a text without it is left alone. -/
theorem exists_withoutMark (a b : Char) (cs : List Char) :
    ∃ mark ∈ [[], [a, b]], cs = mark ++ withoutMark a b cs := by
  fun_cases withoutMark a b cs with
  | case1 c d cs same =>
    obtain ⟨rfl, rfl⟩ := same
    exact ⟨[c, d], by simp, rfl⟩
  | case2 => exact ⟨[], by simp, rfl⟩
  | case3 => exact ⟨[], by simp, rfl⟩

theorem withoutMark_append {a b : Char} {mark cs : List Char} (listed : mark ∈ [[], [a, b]])
    (bare : withoutMark a b cs = cs) : withoutMark a b (mark ++ cs) = cs := by
  simp only [List.mem_cons, List.not_mem_nil, or_false] at listed
  rcases listed with rfl | rfl
  · exact bare
  · simp [withoutMark]

theorem parse_eq_ok_iff {texts : List String} {bytes : Bytes} :
    parse texts = .ok bytes ↔ Denotes texts bytes := by
  rw [parse_eq, decode_eq_ok_iff]
  constructor
  · intro spelled
    obtain ⟨lower, listed, whole⟩ := exists_withoutMark '0' 'x' (undivided texts)
    obtain ⟨upper, listedUpper, rest⟩ :=
      exists_withoutMark '0' 'X' (withoutMark '0' 'x' (undivided texts))
    exact ⟨lower, listed, upper, listedUpper, _, by rw [← rest, ← whole], spelled⟩
  · rintro ⟨lower, listed, upper, listedUpper, digits, whole, spelled⟩
    have bareLower := spelled.isHexOf.withoutMark_eq (a := '0') (b := 'x') rfl
    have bareUpper := spelled.isHexOf.withoutMark_eq (a := '0') (b := 'X') rfl
    -- The upper-case mark does not look like the lower-case one, so it is not removed twice.
    have marked : withoutMark '0' 'x' (upper ++ digits) = upper ++ digits := by
      simp only [List.mem_cons, List.not_mem_nil, or_false] at listedUpper
      rcases listedUpper with rfl | rfl
      · exact bareLower
      · rfl
    rwa [whole, withoutMark_append listed marked, withoutMark_append listedUpper bareUpper]

/-- The printed form of a payload is read back, texts are read exactly if they denote a payload and
    are refused otherwise, and how they are divided and separated does not matter. -/
theorem parse_reads_separated_digits :
    (∀ bytes : Bytes, parse [Numeral.spacedHex bytes] = .ok bytes) ∧
    (∀ texts bytes, parse texts = .ok bytes ↔ Denotes texts bytes) ∧
    (∀ texts, (∃ e, parse texts = .error e) ↔ ¬ ∃ bytes, Denotes texts bytes) ∧
    (∀ texts texts', undivided texts = undivided texts' → parse texts = parse texts') := by
  refine ⟨fun bytes => ?_, fun texts bytes => parse_eq_ok_iff, fun texts => ?_, ?_⟩
  · exact (spells_words (String.intercalate_singleton ..)).parse_eq
  · simp only [← parse_eq_ok_iff]
    cases parse texts with
    | error e => simp
    | ok bytes => simp
  · intro texts texts' same
    rw [parse_eq, parse_eq, same]

/-- Both marks cut in two, separators inside a byte, and digits in both cases. -/
theorem divided_payload_read :
    undivided ["0", "x0:", "X 0", "7\tfF"] = undivided ["0x0X07fF"] ∧
      parse ["0", "x0:", "X 0", "7\tfF"] = parse ["0x0X07fF"] ∧
      Denotes ["0x0X07fF"] [0x07, 0xFF] ∧ ¬ ∃ bytes, Denotes ["0X0x07"] bytes := by
  obtain ⟨-, read, refused, divided⟩ := parse_reads_separated_digits
  have same : undivided ["0", "x0:", "X 0", "7\tfF"] = undivided ["0x0X07fF"] := by decide
  refine ⟨same, divided _ _ same, (read _ _).1 rfl, (refused _).1 ⟨.invalidByte 0x78, rfl⟩⟩

end RegisterMap.HexText
