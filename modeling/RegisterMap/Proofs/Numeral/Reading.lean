import RegisterMap.Proofs.Numeral.Spelling

/-! # Reading number literals

The unsigned reader accepts exactly the literals without a sign whose number fits the width
(`readUnsigned_eq_ok_iff`); it calls a text out of range if it starts beyond the width, and
malformed in every other case (`readUnsigned_cases`). The signed reader asks the unsigned one for
the magnitude at the same width and then looks at the number alone. A magnitude that was out of
range stands for the largest one of the width, which is too large for every width but one: a
negative number of a single bit has the magnitude one as well (`readSigned_eq_ok_iff`). -/

namespace RegisterMap.Numeral

/-! ## Without a sign -/

theorem continues_plain {base : Nat} {c : Char} (continues : Continues base false c) :
    IsDigit base c :=
  continues.resolve_left fun separator => Bool.false_ne_true separator.1

theorem separated_self {base : Nat} {digits : List Char} (proper : ∀ c ∈ digits, IsDigit base c) :
    Separated base digits digits := by
  induction digits with
  | nil => exact .nil
  | cons c digits ih =>
    obtain ⟨first, rest⟩ := List.forall_mem_cons.1 proper
    exact .digit first (ih rest)

section

variable {width : Nat} (wide : 0 < width) (narrow : width ≤ 64)

include wide narrow

/-- Without a mark the digits are decimal and stand side by side. -/
theorem readUnsigned_of_plain {text : List Char} (nonempty : text ≠ [])
    (plain : hasBaseMark text = false) :
    readUnsigned text width =
      match scan 10 (2 ^ width - 1) false 0 text with
      | .error .outOfRange => ⟨2 ^ width - 1, some .outOfRange⟩
      | .error fault => ⟨0, some fault⟩
      | .ok n =>
        if text.contains '_' && !separatorsPlaced text then ⟨0, some .malformed⟩
        else ⟨n, none⟩ := by
  rw [readUnsigned, plain]
  exact readMagnitude_of_announced wide narrow nonempty (if_neg Bool.false_ne_true)

theorem IsMark.readUnsigned_eq {base : Nat} {mark : Char} (marked : IsMark base mark)
    {body : List Char} (nonempty : body ≠ []) :
    readUnsigned ('0' :: mark :: body) width =
      match scan base (2 ^ width - 1) true 0 body with
      | .error .outOfRange => ⟨2 ^ width - 1, some .outOfRange⟩
      | .error fault => ⟨0, some fault⟩
      | .ok n =>
        if body.contains '_' && !separatorsBetweenDigits (lowered mark == 'x') .digit body then
          ⟨0, some .malformed⟩
        else ⟨n, none⟩ := by
  have placed : separatorsPlaced ('0' :: mark :: body) =
      separatorsBetweenDigits (lowered mark == 'x') .digit body := by
    cases marked <;> rfl
  rw [readUnsigned, marked.hasBaseMark, ← placed]
  exact readMagnitude_of_announced wide narrow (List.cons_ne_nil _ _)
    ((if_pos rfl).trans (marked.announcedBase_eq nonempty))

/-- The outcome of a literal: its number, if there is room for it. -/
theorem SpellsNatural.readUnsigned_eq {n : Nat} {text : List Char}
    (spelled : SpellsNatural n text) : readUnsigned text width = .within width n := by
  cases spelled with
  | decimal decimal =>
    rw [← decimal.number]
    apply Numeral.readUnsigned_eq decimal.nonempty wide narrow (by decide) _ decimal.proper
    rw [hasBaseMark_decimal decimal.proper]
    rfl
  | @marked base mark digits text marked nonempty separated number =>
    have positive : 0 < 2 ^ width := by positivity
    have scanned := scan_run marked.positive (2 ^ width - 1) true separated.continues []
    rw [List.append_nil, separated.numberOf_eq, number, scan] at scanned
    rw [marked.readUnsigned_eq wide narrow (separated.ne_nil_iff.1 nonempty), scanned,
      separated.placed marked, Reading.within]
    by_cases fits : n < 2 ^ width
    · rw [if_pos (show n ≤ 2 ^ width - 1 by omega), if_pos fits]
      simp
    · rw [if_neg (show ¬ n ≤ 2 ^ width - 1 by omega), if_neg fits]

omit wide narrow in
theorem numberOf_zero_cons (base : Nat) (digits : List Char) :
    numberOf base ('0' :: digits) = numberOf base digits := by
  rw [numberOf, List.filterMap_cons_some (show digitValue? '0' = some 0 from rfl), ofDigits,
    List.foldl_cons, Nat.zero_mul, numberOf, ofDigits]

omit wide narrow in
/-- Digits that spell a number of any size announce no base, whatever follows them. -/
theorem hasBaseMark_of_large {run : List Char} (proper : ∀ c ∈ run, IsDigit 10 c)
    (large : 0 < numberOf 10 run) (rest : List Char) : hasBaseMark (run ++ rest) = false := by
  rw [← Bool.not_eq_true]
  intro announced
  cases run with
  | nil => cases large
  | cons c run =>
    have digit := proper c (by simp)
    rcases hasBaseMark_cases announced with ⟨base, mark, body, marked, same⟩ | ⟨s, body, sign, same⟩
    · obtain ⟨rfl, behind⟩ : c = '0' ∧ run ++ rest = mark :: body := List.cons.inj same
      cases run with
      | nil =>
        rw [numberOf_zero_cons] at large
        cases large
      | cons second run =>
        obtain ⟨rfl, -⟩ := List.cons.inj behind
        exact marked.not_isDigit (proper _ (by simp))
    · obtain ⟨rfl, -⟩ := List.cons.inj same
      obtain ⟨plus, minus⟩ := digit.ne_sign
      exact sign.elim plus minus

omit wide narrow in
theorem append_ne_nil_of_large {base : Nat} {run : List Char} (large : 0 < numberOf base run)
    (rest : List Char) : run ++ rest ≠ [] := by
  intro empty
  rw [(List.append_eq_nil_iff.1 empty).1] at large
  cases large

theorem StartsBeyond.readUnsigned_eq {text : List Char} (beyond : StartsBeyond width text) :
    readUnsigned text width = ⟨2 ^ width - 1, some .outOfRange⟩ := by
  have positive : 0 < 2 ^ width := by positivity
  cases beyond with
  | @decimal run rest proper beyond =>
    have nonempty := append_ne_nil_of_large (positive.trans_le beyond) rest
    have scanned := scan_run (show 0 < 10 by decide) (2 ^ width - 1) false
      (fun c member => .inr (proper c member)) rest
    rw [if_neg (by omega)] at scanned
    have plain := hasBaseMark_of_large proper (positive.trans_le beyond) rest
    rw [readUnsigned_of_plain wide narrow nonempty plain, scanned]
  | @marked base mark run rest marked proper beyond =>
    have nonempty := append_ne_nil_of_large (positive.trans_le beyond) rest
    have scanned := scan_run marked.positive (2 ^ width - 1) true
      (fun c member => (proper c member).imp_left fun same => ⟨rfl, same⟩) rest
    rw [if_neg (by omega)] at scanned
    rw [marked.readUnsigned_eq wide narrow nonempty, scanned]

/-- Behind a mark, underscores decide between a literal and a malformed text. -/
theorem IsMark.readUnsigned_cases {base : Nat} {mark : Char} (marked : IsMark base mark)
    (body : List Char) :
    (∃ n, SpellsNatural n ('0' :: mark :: body)) ∨ StartsBeyond width ('0' :: mark :: body) ∨
      readUnsigned ('0' :: mark :: body) width = ⟨0, some .malformed⟩ := by
  have positive : 0 < 2 ^ width := by positivity
  by_cases bare : body = []
  · -- A mark without digits is read as an octal number that starts with the letter.
    subst bare
    right; right
    cases marked <;> exact readMagnitude_of_announced wide narrow (List.cons_ne_nil _ _) rfl
  rw [marked.readUnsigned_eq wide narrow bare]
  rcases scan_cases marked.positive (2 ^ width - 1) true body with
    ⟨proper, -, scanned⟩ | ⟨⟨run, rest, rfl, proper, beyond⟩, -⟩ | ⟨-, scanned⟩
  · rw [scanned]
    cases placed : separatorsBetweenDigits (lowered mark == 'x') .digit body with
    | true =>
      obtain ⟨digits, separated⟩ := (exists_separated marked proper).1 placed
      exact .inl ⟨_, .marked marked (separated.ne_nil_iff.2 bare) separated rfl⟩
    | false =>
      have underscore : body.contains '_' = true := by
        by_contra solid
        have digits : ∀ c ∈ body, IsDigit base c := by
          intro c member
          refine (proper c member).resolve_left ?_
          rintro ⟨-, rfl⟩
          exact solid (List.contains_iff_mem.2 member)
        rw [(separated_self digits).placed marked] at placed
        cases placed
      right; right
      rw [underscore]
      rfl
  · exact .inr (.inl (.marked marked (fun c member => (proper c member).imp_left And.right)
      (by omega)))
  · rw [scanned]
    exact .inr (.inr rfl)

/-- The unsigned reader knows no signs: the scan stops at once. -/
theorem readUnsigned_of_sign {sign : Char} (isSign : sign = '+' ∨ sign = '-') {rest : List Char}
    (announced : hasBaseMark (sign :: rest) = true) :
    readUnsigned (sign :: rest) width = ⟨0, some .malformed⟩ := by
  have decimal : announcedBase (sign :: rest) = (10, sign :: rest) := by
    rcases isSign with rfl | rfl <;> rfl
  have stop : ¬ Continues 10 true sign := by
    rintro (⟨-, rfl⟩ | digit)
    · revert isSign
      decide
    · obtain ⟨plus, minus⟩ := digit.ne_sign
      exact isSign.elim plus minus
  rw [readUnsigned, announced, readMagnitude_of_announced wide narrow (List.cons_ne_nil _ _)
    ((if_pos rfl).trans decimal), scan_of_not_continues stop]

/-- Every text is a literal, starts beyond the width, or is malformed. -/
theorem readUnsigned_cases (text : List Char) :
    (∃ n, SpellsNatural n text) ∨ StartsBeyond width text ∨
      readUnsigned text width = ⟨0, some .malformed⟩ := by
  by_cases empty : text = []
  · subst empty
    exact .inr (.inr rfl)
  have positive : 0 < 2 ^ width := by positivity
  cases plain : hasBaseMark text with
  | false =>
    rw [readUnsigned_of_plain wide narrow empty plain]
    rcases scan_cases (show 0 < 10 by decide) (2 ^ width - 1) false text with
      ⟨proper, -, -⟩ | ⟨⟨run, rest, rfl, proper, beyond⟩, -⟩ | ⟨-, scanned⟩
    · exact .inl ⟨_, .decimal ⟨empty, fun c member => continues_plain (proper c member), rfl⟩⟩
    · exact .inr (.inl (.decimal (fun c member => continues_plain (proper c member)) (by omega)))
    · rw [scanned]
      exact .inr (.inr rfl)
  | true =>
    rcases hasBaseMark_cases plain with ⟨base, mark, body, marked, rfl⟩ | ⟨s, rest, sign, rfl⟩
    · exact marked.readUnsigned_cases wide narrow body
    · exact .inr (.inr (readUnsigned_of_sign wide narrow sign plain))

theorem readUnsigned_eq_ok_iff {text : List Char} {n : Nat} :
    readUnsigned text width = ⟨n, none⟩ ↔ SpellsNatural n text ∧ n < 2 ^ width := by
  constructor
  · intro read
    rcases readUnsigned_cases wide narrow text with ⟨m, spelled⟩ | beyond | malformed
    · rw [spelled.readUnsigned_eq wide narrow, Reading.within] at read
      split at read
      · next fits =>
        cases read
        exact ⟨spelled, fits⟩
      · cases read
    · rw [beyond.readUnsigned_eq wide narrow] at read
      cases read
    · rw [malformed] at read
      cases read
  · rintro ⟨spelled, fits⟩
    rw [spelled.readUnsigned_eq wide narrow, Reading.within, if_pos fits]

end

/-- A literal of a number that does not fit starts beyond the width. -/
theorem SpellsNatural.startsBeyond {width n : Nat} {text : List Char}
    (spelled : SpellsNatural n text) (large : 2 ^ width ≤ n) : StartsBeyond width text := by
  cases spelled with
  | decimal decimal =>
    have starts : StartsBeyond width (text ++ []) :=
      .decimal decimal.proper (by rwa [decimal.number])
    rwa [List.append_nil] at starts
  | @marked base mark digits text marked nonempty separated number =>
    have starts : StartsBeyond width ('0' :: mark :: (text ++ [])) := by
      refine .marked marked (fun c member => (separated.continues c member).imp_left And.right) ?_
      rwa [separated.numberOf_eq, number]
    rwa [List.append_nil] at starts

/-! ## With a sign -/

theorem SpellsNatural.head_ne_sign {n : Nat} {c : Char} {text : List Char}
    (spelled : SpellsNatural n (c :: text)) : c ≠ '+' ∧ c ≠ '-' := by
  cases spelled with
  | decimal decimal => exact (decimal.proper c (by simp)).ne_sign
  | marked => decide

theorem spellsInteger_iff {i : Int} {text : List Char} :
    SpellsInteger i text ↔
      ∃ n : Nat, SpellsNatural n (withoutSign text) ∧
        i = if text.head? == some '-' then -(n : Int) else n := by
  constructor
  · intro spelled
    cases spelled with
    | @plain n text spelled number =>
      cases text with
      | nil => exact ⟨n, spelled, number⟩
      | cons c text =>
        obtain ⟨plus, minus⟩ := spelled.head_ne_sign
        have bare : withoutSign (c :: text) = c :: text := by
          unfold withoutSign
          split <;> simp_all
        refine ⟨n, ?_, by simpa [minus] using number⟩
        rwa [bare]
    | @plus n text spelled number => exact ⟨n, spelled, number⟩
    | @minus n text spelled number => exact ⟨n, spelled, number⟩
  · rintro ⟨n, spelled, number⟩
    unfold withoutSign at spelled
    split at spelled
    · exact .plus spelled number
    · exact .minus spelled number
    · next plus minus =>
      have first : text.head? ≠ some '-' := by
        intro first
        obtain ⟨rest, rfl⟩ := List.head?_eq_some_iff.1 first
        exact minus rest rfl
      rw [if_neg (by simpa using first)] at number
      exact .plain spelled number

/-- What the signed reader makes of a magnitude. -/
def Reading.signed (negative : Bool) (half n : Nat) : Reading Int :=
  if negative then
    if half < n then ⟨-half, some .outOfRange⟩ else ⟨-n, none⟩
  else if half ≤ n then ⟨half - 1, some .outOfRange⟩
  else ⟨n, none⟩

theorem readSigned_of_malformed {text : List Char} {width n : Nat}
    (read : readUnsigned (withoutSign text) width = ⟨n, some .malformed⟩) :
    readSigned text width = ⟨0, some .malformed⟩ := by
  unfold readSigned
  split
  · rfl
  · rw [readUnsigned, hasBaseMark_withoutSign] at read
    simp only [read]

/-- Where the magnitude is a number, or stands for one that is too large, the signed reader looks
    at that number. -/
theorem readSigned_of_magnitude {text : List Char} {width n : Nat} (wide : 0 < width)
    {fault : Option LiteralFault} (read : readUnsigned (withoutSign text) width = ⟨n, fault⟩)
    (numeric : fault = none ∨ fault = some .outOfRange) :
    readSigned text width = .signed (text.head? == some '-') (2 ^ (width - 1)) n := by
  have effective : effectiveWidth width = width := by simp [effectiveWidth, wide.ne']
  unfold readSigned
  split
  · next empty =>
    rw [List.isEmpty_iff.1 empty] at read
    cases read
    simp at numeric
  · rw [readUnsigned, hasBaseMark_withoutSign] at read
    simp only [read]
    rcases numeric with rfl | rfl <;> simp only [effective, Reading.signed] <;> rfl

/-- The numbers of two's complement with `width` bits. -/
def InWidth (width : Nat) (i : Int) : Prop :=
  -2 ^ (width - 1) ≤ i ∧ i < 2 ^ (width - 1)

instance (width : Nat) (i : Int) : Decidable (InWidth width i) :=
  inferInstanceAs (Decidable (_ ∧ _))

theorem inWidth_iff {width : Nat} {i : Int} :
    InWidth width i ↔ -((2 ^ (width - 1) : Nat) : Int) ≤ i ∧ i < (2 ^ (width - 1) : Nat) := by
  rw [InWidth, Nat.cast_pow, Nat.cast_ofNat]

/-- The magnitude decides, with the sign, about the width. -/
theorem Reading.signed_eq (negative : Bool) (width n : Nat) {i : Int}
    (number : i = if negative then -(n : Int) else n) :
    (InWidth width i ∧ Reading.signed negative (2 ^ (width - 1)) n = ⟨i, none⟩) ∨
      (¬ InWidth width i ∧
        (Reading.signed negative (2 ^ (width - 1)) n).fault = some .outOfRange) := by
  have positive : 0 < 2 ^ (width - 1) := by positivity
  rw [inWidth_iff]
  generalize 2 ^ (width - 1) = half at positive ⊢
  cases negative with
  | true =>
    simp only [if_pos] at number
    subst number
    by_cases large : half < n
    · exact .inr ⟨by omega, by simp [Reading.signed, large]⟩
    · exact .inl ⟨by omega, by simp [Reading.signed, large]⟩
  | false =>
    simp only [Bool.false_eq_true, if_false] at number
    subst number
    by_cases large : half ≤ n
    · exact .inr ⟨by omega, by simp [Reading.signed, large]⟩
    · exact .inl ⟨by omega, by simp [Reading.signed, large]⟩

theorem two_pow_halves {width : Nat} (wide : 0 < width) :
    2 ^ width = 2 ^ (width - 1) + 2 ^ (width - 1) := by
  rw [← Nat.two_mul, ← pow_succ', Nat.sub_add_cancel wide]

/-- As a number of a single bit every negative magnitude above one becomes one. -/
theorem readSigned_of_single {rest : List Char} (starts : StartsBeyond 1 rest) :
    readSigned ('-' :: rest) (1 : Nat) = ⟨-1, none⟩ := by
  have read : readUnsigned (withoutSign ('-' :: rest)) (1 : Nat) = ⟨1, some .outOfRange⟩ :=
    starts.readUnsigned_eq (by decide) (by decide)
  rw [readSigned_of_magnitude (by decide) read (.inr rfl)]
  rfl

section

variable {width : Nat} (narrow : width ≤ 64)

include narrow

/-- The signed reader takes a literal whose number has the width. -/
theorem SpellsInteger.readSigned_eq (wide : 0 < width) {i : Int} {text : List Char}
    (spelled : SpellsInteger i text) (inWidth : InWidth width i) :
    readSigned text width = ⟨i, none⟩ := by
  obtain ⟨n, natural, number⟩ := spellsInteger_iff.1 spelled
  have fits : n < 2 ^ width := by
    have halves := two_pow_halves wide
    rw [inWidth_iff] at inWidth
    split_ifs at number <;> omega
  have read := (readUnsigned_eq_ok_iff wide narrow).2 ⟨natural, fits⟩
  rw [readSigned_of_magnitude wide read (.inl rfl)]
  rcases Reading.signed_eq (text.head? == some '-') width n number with
    ⟨-, signed⟩ | ⟨outside, -⟩
  · exact signed
  · exact absurd inWidth outside

/-- A text that starts beyond the width is out of range, unless it is negative and the width is a
    single bit. -/
theorem readSigned_of_beyond (wide : 0 < width) {text : List Char}
    (beyond : StartsBeyond width (withoutSign text)) :
    (width = 1 ∧ text.head? = some '-') ∨
      (readSigned text width).fault = some .outOfRange := by
  have halves := two_pow_halves wide
  have positive : 0 < 2 ^ (width - 1) := by positivity
  rw [readSigned_of_magnitude wide (beyond.readUnsigned_eq wide narrow) (.inr rfl)]
  by_cases single : width = 1 ∧ text.head? = some '-'
  · exact .inl single
  · -- From two bits on the largest magnitude exceeds the half that a minus allows.
    right
    rcases Reading.signed_eq (text.head? == some '-') width (2 ^ width - 1) rfl with
      ⟨inside, -⟩ | ⟨-, outside⟩
    · exfalso
      rw [inWidth_iff] at inside
      by_cases first : text.head? = some '-'
      · have two : 2 ≤ 2 ^ (width - 1) := by
          have more : width - 1 ≠ 0 := fun none => single ⟨by omega, first⟩
          exact Nat.le_self_pow more 2
        simp only [first, beq_self_eq_true, if_true] at inside
        omega
      · simp only [first, beq_iff_eq, if_false] at inside
        omega
    · exact outside

/-- So is a literal of a number beyond the width. -/
theorem SpellsInteger.readSigned_of_outside (wide : 0 < width) {i : Int} {text : List Char}
    (spelled : SpellsInteger i text) (outside : ¬ InWidth width i) :
    (width = 1 ∧ text.head? = some '-' ∧ StartsBeyond width (withoutSign text)) ∨
      (readSigned text width).fault = some .outOfRange := by
  obtain ⟨n, natural, number⟩ := spellsInteger_iff.1 spelled
  by_cases fits : n < 2 ^ width
  · right
    have read := (readUnsigned_eq_ok_iff wide narrow).2 ⟨natural, fits⟩
    rw [readSigned_of_magnitude wide read (.inl rfl)]
    rcases Reading.signed_eq (text.head? == some '-') width n number with
      ⟨inside, -⟩ | ⟨-, refused⟩
    · exact absurd inside outside
    · exact refused
  · have starts := natural.startsBeyond (Nat.not_lt.1 fits)
    exact (readSigned_of_beyond narrow wide starts).imp_left
      fun ⟨single, first⟩ => ⟨single, first, starts⟩

/-- The outcomes of the signed reader. The last one needs a width of a single bit. -/
theorem readSigned_cases (wide : 0 < width) (text : List Char) :
    (∃ i, SpellsInteger i text ∧ InWidth width i) ∨
    (((∃ i, SpellsInteger i text ∧ ¬ InWidth width i) ∨ StartsBeyond width (withoutSign text)) ∧
      (readSigned text width).fault = some .outOfRange) ∨
    ((∀ i, ¬ SpellsInteger i text) ∧ readSigned text width = ⟨0, some .malformed⟩) ∨
    (width = 1 ∧ text.head? = some '-' ∧ StartsBeyond width (withoutSign text)) := by
  rcases readUnsigned_cases wide narrow (withoutSign text) with ⟨n, natural⟩ | starts | malformed
  · have spelled := spellsInteger_iff.2 ⟨n, natural, rfl⟩
    by_cases inside : InWidth width (if text.head? == some '-' then -(n : Int) else n)
    · exact .inl ⟨_, spelled, inside⟩
    · rcases spelled.readSigned_of_outside narrow wide inside with single | refused
      · exact .inr (.inr (.inr single))
      · exact .inr (.inl ⟨.inl ⟨_, spelled, inside⟩, refused⟩)
  · rcases readSigned_of_beyond narrow wide starts with ⟨single, first⟩ | refused
    · exact .inr (.inr (.inr ⟨single, first, starts⟩))
    · exact .inr (.inl ⟨.inr starts, refused⟩)
  · refine .inr (.inr (.inl ⟨?_, readSigned_of_malformed malformed⟩))
    intro i spelled
    obtain ⟨n, natural, -⟩ := spellsInteger_iff.1 spelled
    have read := natural.readUnsigned_eq wide narrow
    rw [malformed, Reading.within] at read
    split at read <;> simp at read

theorem readSigned_eq_ok_iff (wide : 0 < width) {text : List Char} {i : Int} :
    readSigned text width = ⟨i, none⟩ ↔
      (SpellsInteger i text ∧ InWidth width i) ∨
      (width = 1 ∧ i = -1 ∧ ∃ magnitude, text = '-' :: magnitude ∧ StartsBeyond 1 magnitude) := by
  constructor
  · intro read
    rcases readSigned_cases narrow wide text with
      ⟨j, spelled, inside⟩ | ⟨-, refused⟩ | ⟨-, refused⟩ | ⟨single, first, starts⟩
    · rw [spelled.readSigned_eq narrow wide inside] at read
      cases read
      exact .inl ⟨spelled, inside⟩
    · rw [read] at refused
      cases refused
    · rw [refused] at read
      cases read
    · subst single
      obtain ⟨rest, rfl⟩ := List.head?_eq_some_iff.1 first
      have starts : StartsBeyond 1 rest := starts
      rw [readSigned_of_single starts] at read
      cases read
      exact .inr ⟨rfl, rfl, rest, rfl, starts⟩
  · rintro (⟨spelled, inside⟩ | ⟨rfl, rfl, rest, rfl, starts⟩)
    · exact spelled.readSigned_eq narrow wide inside
    · exact readSigned_of_single starts

end

/-! ## At every width -/

theorem effectiveWidth_range {width : Nat} (narrow : width ≤ 64) :
    0 < effectiveWidth width ∧ effectiveWidth width ≤ 64 := by
  rw [effectiveWidth]
  split_ifs <;> omega

theorem readUnsigned_effectiveWidth (text : List Char) (width : Nat) :
    readUnsigned text width = readUnsigned text (effectiveWidth width : Nat) := by
  by_cases default : width = 0
  · subst default
    rfl
  · rw [effectiveWidth, if_neg (by omega), Int.toNat_natCast]

theorem readSigned_effectiveWidth (text : List Char) (width : Nat) :
    readSigned text width = readSigned text (effectiveWidth width : Nat) := by
  by_cases default : width = 0
  · subst default
    rfl
  · rw [effectiveWidth, if_neg (by omega), Int.toNat_natCast]

theorem effectiveWidth_eq_one_iff {width : Nat} : effectiveWidth width = 1 ↔ width = 1 := by
  rw [effectiveWidth]
  split_ifs <;> omega

/-- No literal starts with a sign that it does not take. -/
theorem not_spellsNatural_sign {n : Nat} {sign : Char} (isSign : sign = '+' ∨ sign = '-')
    (rest : List Char) : ¬ SpellsNatural n (sign :: rest) := by
  intro spelled
  obtain ⟨plus, minus⟩ := spelled.head_ne_sign
  exact isSign.elim plus minus

theorem not_startsBeyond_sign {width : Nat} {sign : Char} (isSign : sign = '+' ∨ sign = '-')
    (rest : List Char) : ¬ StartsBeyond width (sign :: rest) := by
  have positive : 0 < 2 ^ width := by positivity
  intro starts
  generalize same : sign :: rest = text at starts
  cases starts with
  | @decimal run behind proper beyond =>
    cases run with
    | nil => exact absurd beyond (Nat.not_le.2 positive)
    | cons c run =>
      obtain ⟨rfl, -⟩ := List.cons.inj same
      obtain ⟨plus, minus⟩ := (proper sign (by simp)).ne_sign
      exact isSign.elim plus minus
  | marked =>
    obtain ⟨rfl, -⟩ := List.cons.inj same
    revert isSign
    decide

/-- The readers accept exactly the literals whose numbers have the width, and give these numbers.
    The one exception is a negative number of a single bit: a text that starts with a minus and then
    like a magnitude above one is read as minus one. A zero in front of digits changes nothing, and
    a sign that is not taken is refused. -/
theorem readers_accept_literals {width : Nat} (narrow : width ≤ 64) :
    (∀ text n, readUnsigned text width = ⟨n, none⟩ ↔
      SpellsNatural n text ∧ n < 2 ^ effectiveWidth width) ∧
    (∀ text i, readSigned text width = ⟨i, none⟩ ↔
      (SpellsInteger i text ∧ InWidth (effectiveWidth width) i) ∨
      (width = 1 ∧ i = -1 ∧ ∃ magnitude, text = '-' :: magnitude ∧ StartsBeyond 1 magnitude)) ∧
    (∀ digits, digits ≠ [] → (∀ c ∈ digits, IsDigit 10 c) →
      readUnsigned ('0' :: digits) width = readUnsigned digits width) ∧
    (∀ sign rest, sign = '+' ∨ sign = '-' → (readUnsigned (sign :: rest) width).fault ≠ none) ∧
    (∀ first second rest, first = '+' ∨ first = '-' → second = '+' ∨ second = '-' →
      (readSigned (first :: second :: rest) width).fault ≠ none) := by
  obtain ⟨positive, effective⟩ := effectiveWidth_range narrow
  have unsigned (text : List Char) (n : Nat) : readUnsigned text width = ⟨n, none⟩ ↔
      SpellsNatural n text ∧ n < 2 ^ effectiveWidth width := by
    rw [readUnsigned_effectiveWidth, readUnsigned_eq_ok_iff positive effective]
  have signed (text : List Char) (i : Int) : readSigned text width = ⟨i, none⟩ ↔
      (SpellsInteger i text ∧ InWidth (effectiveWidth width) i) ∨
      (width = 1 ∧ i = -1 ∧ ∃ magnitude, text = '-' :: magnitude ∧ StartsBeyond 1 magnitude) := by
    rw [readSigned_effectiveWidth, readSigned_eq_ok_iff effective positive,
      effectiveWidth_eq_one_iff]
  refine ⟨unsigned, signed, ?_, ?_, ?_⟩
  · intro digits nonempty proper
    have zero : IsDigit 10 '0' := ⟨0, by decide, rfl⟩
    have padded : SpellsNatural (numberOf 10 digits) ('0' :: digits) :=
      .decimal ⟨by simp, List.forall_mem_cons.2 ⟨zero, proper⟩, numberOf_zero_cons 10 digits⟩
    have bare : SpellsNatural (numberOf 10 digits) digits := .decimal ⟨nonempty, proper, rfl⟩
    rw [readUnsigned_effectiveWidth, padded.readUnsigned_eq positive effective,
      readUnsigned_effectiveWidth, bare.readUnsigned_eq positive effective]
  · intro sign rest isSign accepted
    have read : readUnsigned (sign :: rest) width =
        ⟨(readUnsigned (sign :: rest) width).value, none⟩ := by rw [← accepted]
    exact not_spellsNatural_sign isSign rest ((unsigned _ _).1 read).1
  · intro first second rest isFirst isSecond accepted
    have read : readSigned (first :: second :: rest) width =
        ⟨(readSigned (first :: second :: rest) width).value, none⟩ := by rw [← accepted]
    have bare : withoutSign (first :: second :: rest) = second :: rest := by
      rcases isFirst with rfl | rfl <;> rfl
    rcases (signed _ _).1 read with ⟨spelled, -⟩ | ⟨-, -, magnitude, same, starts⟩
    · obtain ⟨n, natural, -⟩ := spellsInteger_iff.1 spelled
      rw [bare] at natural
      exact not_spellsNatural_sign isSecond rest natural
    · obtain ⟨-, rfl⟩ := List.cons.inj same
      exact not_startsBeyond_sign isSecond rest starts

theorem lowest_byte_read :
    8 ≤ 64 ∧ readSigned "-0x_8_0".toList (8 : Nat) = ⟨-128, none⟩ ∧
      readUnsigned "0b1_0".toList (8 : Nat) = ⟨2, none⟩ ∧
      readUnsigned "010".toList (8 : Nat) = readUnsigned "10".toList (8 : Nat) ∧
      (readUnsigned "+1".toList (8 : Nat)).fault ≠ none ∧
      (readSigned "+-1".toList (8 : Nat)).fault ≠ none := by
  have narrow : 8 ≤ 64 := by decide
  obtain ⟨unsigned, signed, zero, oneSign, twoSigns⟩ := readers_accept_literals narrow
  have digit (d : Nat) (c : Char) (small : d < 16) (value : digitValue? c = some d) :
      IsDigit 16 c := ⟨d, small, value⟩
  have hexadecimal : SpellsNatural 128 "0x_8_0".toList :=
    .marked .hexadecimal (List.cons_ne_nil _ _)
      (.separator (digit 8 '8' (by decide) rfl) (.separator (digit 0 '0' (by decide) rfl) .nil)) rfl
  have binary : SpellsNatural 2 "0b1_0".toList :=
    .marked .binary (List.cons_ne_nil _ _)
      (.digit ⟨1, by decide, rfl⟩ (.separator ⟨0, by decide, rfl⟩ .nil)) rfl
  refine ⟨narrow, ?_, ?_, ?_, oneSign '+' _ (.inl rfl), twoSigns '+' '-' _ (.inl rfl) (.inr rfl)⟩
  · exact (signed _ _).2 (.inl ⟨.minus hexadecimal rfl, by decide, by decide⟩)
  · exact (unsigned _ _).2 ⟨binary, by decide⟩
  · refine zero "10".toList (by decide) ?_
    intro c member
    rcases List.mem_cons.1 member with rfl | member
    · exact ⟨1, by decide, rfl⟩
    · rw [List.mem_singleton.1 member]
      exact ⟨0, by decide, rfl⟩

/-- Minus two is read as a number of one bit, although it is none. -/
theorem minus_two_read_in_one_bit :
    readSigned "-2".toList (1 : Nat) = ⟨-1, none⟩ ∧
      ¬ ∃ i, SpellsInteger i "-2".toList ∧ InWidth 1 i := by
  refine ⟨rfl, ?_⟩
  rintro ⟨i, spelled, inside⟩
  obtain ⟨n, natural, number⟩ := spellsInteger_iff.1 spelled
  have read : readUnsigned _ (64 : Nat) = .within 64 n :=
    natural.readUnsigned_eq (by decide) (by decide)
  have computed : readUnsigned (withoutSign "-2".toList) (64 : Nat) = ⟨2, none⟩ := rfl
  rw [computed, Reading.within] at read
  split at read
  · cases read
    subst number
    exact absurd inside (by decide)
  · cases read

end RegisterMap.Numeral
