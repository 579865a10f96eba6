import Mathlib.Data.List.DropRight
import RegisterMap.Proofs.Calendar.CivilDate
import RegisterMap.Proofs.Numeral.Digits

/-! # The text of an instant determines it

A reader takes four digits for the year, so a text can be read back for the years 0 to 9999. The
instants of these years are `Dated`, and `Instant.parse?` undoes `Instant.text` on them. -/

namespace RegisterMap.Instant

/-- The instant lies in one of the years 0 to 9999. -/
structure Dated (t : Instant) : Prop where
  first : -62167219200 ≤ t.seconds
  last : t.seconds < 253402300800
  nanos : t.nanos < 1000000000

instance (t : Instant) : Decidable t.Dated :=
  decidable_of_iff
    (-62167219200 ≤ t.seconds ∧ t.seconds < 253402300800 ∧ t.nanos < 1000000000)
    ⟨fun ⟨first, last, nanos⟩ => ⟨first, last, nanos⟩, fun h => ⟨h.first, h.last, h.nanos⟩⟩

/-! ## Digits -/

theorem digit?_digitChar {d : Nat} (small : d < 10) : digit? (Numeral.digitChar d) = some d := by
  interval_cases d <;> rfl

theorem readDigits_map {ds : List Nat} (proper : ∀ d ∈ ds, d < 10) (number : Nat)
    (rest : List Char) :
    readDigits ds.length number (ds.map Numeral.digitChar ++ rest) =
      some (ds.foldl (fun n d => n * 10 + d) number, rest) := by
  induction ds generalizing number with
  | nil => rfl
  | cons d ds ih =>
    obtain ⟨small, proper⟩ := List.forall_mem_cons.1 proper
    rw [List.length_cons, List.map_cons, List.cons_append, readDigits, digit?_digitChar small]
    exact ih proper _

/-- The digits of a number that fits the width. -/
theorem padded_eq {width : Nat} {i : Int} (wide : 0 < width) (low : 0 ≤ i) (high : i < 10 ^ width) :
    ∃ ds : List Nat, ds.length = width ∧ (∀ d ∈ ds, d < 10) ∧
      Numeral.ofDigits 10 ds = i.toNat ∧ padded width i = ds.map Numeral.digitChar := by
  obtain ⟨n, rfl⟩ := Int.eq_ofNat_of_zero_le low
  have fits : n < 10 ^ width := by exact_mod_cast high
  rw [padded, if_neg (by omega), Int.natAbs_natCast, Int.toNat_natCast]
  exact Numeral.zeroPadded_chars (by omega) wide fits

theorem length_padded {width : Nat} {i : Int} (wide : 0 < width) (low : 0 ≤ i)
    (high : i < 10 ^ width) : (padded width i).length = width := by
  obtain ⟨ds, length, -, -, text⟩ := padded_eq wide low high
  rw [text, List.length_map, length]

theorem readDigits_padded {width : Nat} {i : Int} (wide : 0 < width) (low : 0 ≤ i)
    (high : i < 10 ^ width) (rest : List Char) :
    readDigits width 0 (padded width i ++ rest) = some (i.toNat, rest) := by
  obtain ⟨ds, rfl, proper, value, text⟩ := padded_eq wide low high
  rw [text, readDigits_map proper]
  exact congrArg (fun n => some (n, rest)) value

theorem readPair_padded {i : Int} (short : Bool) (low : 0 ≤ i) (high : i < 100)
    (rest : List Char) : readPair short (padded 2 i ++ rest) = some (i.toNat, rest) := by
  rw [readPair, readDigits_padded (by omega) low high]

theorem readMark_cons (mark : Char) (rest : List Char) :
    readMark mark (mark :: rest) = some rest :=
  if_pos rfl

/-! ## The fraction -/

/-- Zeros put on up to the former length restore the zeros that were left away. -/
theorem take_rdropWhile_zeros (cs : List Char) :
    (cs.rdropWhile (· == '0') ++ List.replicate cs.length '0').take cs.length = cs := by
  have split : cs.rdropWhile (· == '0') ++ cs.rtakeWhile (· == '0') = cs :=
    List.rdropWhile_append_rtakeWhile
  have zeros : ∀ c ∈ cs.rtakeWhile (· == '0'), c = '0' := by
    intro c member
    simpa using List.mem_rtakeWhile_imp member
  have count := congrArg List.length split
  rw [List.length_append] at count
  rw [List.take_append, List.take_of_length_le (by omega), List.take_replicate,
    Nat.min_eq_left (Nat.sub_le _ _)]
  rw [List.eq_replicate_iff.2 ⟨rfl, zeros⟩] at split
  rwa [← count, Nat.add_sub_cancel_left]

theorem filterMap_digit? {ds : List Nat} (proper : ∀ d ∈ ds, d < 10) :
    (ds.map Numeral.digitChar).filterMap digit? = ds := by
  rw [List.filterMap_map]
  refine (List.filterMap_congr fun d member => ?_).trans List.filterMap_some
  exact digit?_digitChar (proper d member)

theorem length_fraction_le {nanos : Nat} (small : nanos < 1000000000) :
    (fraction nanos).length ≤ 10 := by
  rw [fraction]
  split
  · exact Nat.zero_le _
  · have length := length_padded (show 0 < 9 by omega) (Int.natCast_nonneg nanos) (by omega)
    have kept := (List.rdropWhile_prefix (· == '0') (padded 9 nanos)).length_le
    rw [length] at kept
    exact Nat.succ_le_succ kept

theorem readFraction_fraction {nanos : Nat} (small : nanos < 1000000000) :
    readFraction (fraction nanos ++ ['Z']) = (nanos, ['Z']) := by
  by_cases zero : nanos = 0
  · rw [fraction, if_pos zero, zero]
    rfl
  obtain ⟨ds, nine, proper, value, text⟩ :=
    padded_eq (show 0 < 9 by omega) (Int.natCast_nonneg nanos) (by omega)
  have length : (padded 9 nanos).length = 9 := by rw [text, List.length_map, nine]
  have number : Numeral.ofDigits 10 ((padded 9 nanos).filterMap digit?) = nanos := by
    rw [text, filterMap_digit? proper, value, Int.toNat_natCast]
  have restored := take_rdropWhile_zeros (padded 9 nanos)
  have inside := (List.rdropWhile_prefix (· == '0') (padded 9 nanos)).subset
  have shown : fraction nanos = '.' :: (padded 9 nanos).rdropWhile (· == '0') := if_neg zero
  rw [length] at restored
  generalize (padded 9 nanos).rdropWhile (· == '0') = kept at restored inside shown
  -- Nothing but zeros would spell zero.
  have nonempty : kept.isEmpty = false := by
    rw [List.isEmpty_eq_false_iff]
    rintro rfl
    rw [← restored] at number
    exact zero number.symm
  have digits : ∀ c ∈ kept, (digit? c).isSome = true := by
    intro c member
    have char := inside member
    rw [text] at char
    obtain ⟨d, digit, rfl⟩ := List.mem_map.1 char
    rw [digit?_digitChar (proper d digit)]
    rfl
  have taken : (kept ++ ['Z']).takeWhile (fun c => (digit? c).isSome) = kept := by
    rw [List.takeWhile_append_of_pos digits]
    exact List.append_nil _
  rw [shown, List.cons_append, readFraction]
  simp only [taken, nonempty, restored, number, List.drop_left]
  rfl

/-! ## Instants -/

theorem readDate_ofDays {days : Int} (first : -719528 ≤ days) (last : days < 2932897)
    (rest : List Char) :
    readDate false (padded 4 (CivilDate.ofDays days).year ++ '-' ::
      (padded 2 (CivilDate.ofDays days).month ++ '-' ::
        (padded 2 (CivilDate.ofDays days).day ++ rest))) = some (CivilDate.ofDays days, rest) := by
  have valid := CivilDate.isValid_ofDays days
  obtain ⟨early, late⟩ := CivilDate.year_ofDays first last
  generalize CivilDate.ofDays days = date at *
  obtain ⟨month, day⟩ := CivilDate.month_day_le valid
  have same : (⟨(date.year.toNat : Int), date.month, date.day⟩ : CivilDate) = date := by
    rw [Int.toNat_of_nonneg early]
  have year := readDigits_padded (show 0 < 4 by omega) early (by omega)
  have monthRead := readPair_padded false (Int.natCast_nonneg date.month) (by omega)
  have dayRead := readPair_padded false (Int.natCast_nonneg date.day) (by omega)
  simp only [readDate, year, monthRead, dayRead, readMark_cons, Int.toNat_natCast,
    Option.bind_eq_bind, Option.bind_some, same, valid, if_true]

theorem readTime_ofSecond {time : Int} (first : 0 ≤ time) (last : time < 86400) {nanos : Nat}
    (small : nanos < 1000000000) :
    readTime false (padded 2 (time / 3600) ++ ':' :: (padded 2 (time / 60 % 60) ++ ':' ::
      (padded 2 (time % 60) ++ (fraction nanos ++ ['Z'])))) = some (time.toNat, nanos, ['Z']) := by
  have range : ¬ (24 ≤ (time / 3600).toNat ∨ 60 ≤ (time / 60 % 60).toNat ∨
      60 ≤ (time % 60).toNat) := by omega
  have second : ((time / 3600).toNat * 60 + (time / 60 % 60).toNat) * 60 + (time % 60).toNat =
      time.toNat := by omega
  have hour := readPair_padded true (show 0 ≤ time / 3600 by omega) (by omega)
  have minute := readPair_padded false (show 0 ≤ time / 60 % 60 by omega) (by omega)
  have rest := readPair_padded false (show 0 ≤ time % 60 by omega) (by omega)
  simp only [readTime, hour, minute, rest, readMark_cons, readFraction_fraction small,
    Option.bind_eq_bind, Option.bind_some, second]
  rw [if_neg]
  simpa only [Bool.or_eq_true, decide_eq_true_eq, or_assoc] using range

theorem toList_text {t : Instant} (dated : t.Dated) :
    t.text.toList = padded 4 (CivilDate.ofDays (t.seconds / 86400)).year ++ '-' ::
      (padded 2 (CivilDate.ofDays (t.seconds / 86400)).month ++ '-' ::
        (padded 2 (CivilDate.ofDays (t.seconds / 86400)).day ++ 'T' ::
          (padded 2 (t.seconds % 86400 / 3600) ++ ':' ::
            (padded 2 (t.seconds % 86400 / 60 % 60) ++ ':' ::
              (padded 2 (t.seconds % 86400 % 60) ++ (fraction t.nanos ++ ['Z'])))))) := by
  have second : calendarSecond t.seconds = t.seconds := by
    have first := dated.first
    rw [calendarSecond, if_neg]
    unfold firstSecond
    omega
  simp only [Instant.text, second, String.toList_ofList, List.append_assoc, List.cons_append]

theorem length_text_le {t : Instant} (dated : t.Dated) : t.text.toList.length ≤ 30 := by
  obtain ⟨first, last, small⟩ := dated
  obtain ⟨early, late⟩ :=
    CivilDate.year_ofDays (show -719528 ≤ t.seconds / 86400 by omega) (by omega)
  obtain ⟨month, day⟩ := CivilDate.month_day_le (CivilDate.isValid_ofDays (t.seconds / 86400))
  have fractionLength := length_fraction_le small
  rw [toList_text ⟨first, last, small⟩]
  have four := length_padded (show 0 < 4 by omega) early (by omega)
  have two : ∀ i : Int, 0 ≤ i → i < 100 → (padded 2 i).length = 2 := fun _ =>
    length_padded Nat.two_pos
  simp (disch := omega) only [List.length_append, List.length_cons, List.length_nil, four, two]
  omega

/-- The text of an instant of the years 0 to 9999 can be read back. -/
theorem parse?_text {t : Instant} (dated : t.Dated) : parse? t.text = some t := by
  obtain ⟨first, last, small⟩ := dated
  have seconds : t.seconds / 86400 * 86400 + ((t.seconds % 86400).toNat : Int) - 0 = t.seconds := by
    omega
  have date := readDate_ofDays (show -719528 ≤ t.seconds / 86400 by omega) (by omega)
  have time := readTime_ofSecond (show 0 ≤ t.seconds % 86400 by omega) (by omega) small
  have offset : readOffset ['Z'] = some 0 := rfl
  simp only [parse?, toList_text ⟨first, last, small⟩, date, time, offset, readMark_cons,
    CivilDate.days_ofDays, Option.bind_eq_bind, Option.bind_some, seconds]
  rfl

end RegisterMap.Instant
