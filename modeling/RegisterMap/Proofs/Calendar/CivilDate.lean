import Mathlib.Tactic
import RegisterMap.Calendar

/-! # Days and dates

`CivilDate.ofDays` and `CivilDate.days` are inverse, and the dates that come out are dates of the
calendar. Everything is arithmetic within one era of 400 years: `ofDays_eq` takes a number of
days apart into an era, a year of the era, a month and a day, and says which bounds they keep. -/

namespace RegisterMap.CivilDate

/-- The year of a day within an era. -/
def yearOfEra (day : Int) : Int :=
  (day - day / 1460 + day / 36524 - day / 146096) / 365

/-- A day of an era lies in its year, and only leap years have a 366th day. -/
theorem yearOfEra_spec {day : Int} (first : 0 ≤ day) (last : day < daysPerEra) :
    0 ≤ yearOfEra day ∧ yearOfEra day ≤ 399 ∧ daysOfYears (yearOfEra day) ≤ day ∧
      day ≤ daysOfYears (yearOfEra day) + 365 ∧
      (day = daysOfYears (yearOfEra day) + 365 →
        (yearOfEra day + 1) % 4 = 0 ∧
          ((yearOfEra day + 1) % 100 ≠ 0 ∨ yearOfEra day + 1 = 400)) := by
  have year : yearOfEra day = (day - day / 1460 + day / 36524 - day / 146096) / 365 := rfl
  generalize yearOfEra day = y at year ⊢
  unfold daysPerEra at last
  unfold daysOfYears
  by_cases final : day = 146096
  · omega
  · -- Every other day lies in one of four centuries, and its year does too.
    have century : day / 36524 = 0 ∨ day / 36524 = 1 ∨ day / 36524 = 2 ∨ day / 36524 = 3 := by
      omega
    have early : day / 146096 = 0 := by omega
    have same : y / 100 = day / 36524 := by
      rcases century with century | century | century | century <;> omega
    rw [early] at year
    rcases century with century | century | century | century <;>
      · rw [century] at same year
        rw [same]
        refine ⟨by omega, by omega, by omega, by omega, ?_⟩
        intro lastDay
        have phase : y % 4 = 0 ∨ y % 4 = 1 ∨ y % 4 = 2 ∨ y % 4 = 3 := by omega
        rcases phase with phase | phase | phase | phase <;> omega

/-- The month of a day within a year that begins in March. -/
def monthOfYear (day : Int) : Int :=
  (5 * day + 2) / 153

/-- A day of a year lies in its month; the four short months have 30 days, and the last month has a
    29th day only on the 366th day of the year. -/
theorem monthOfYear_spec {day : Int} (first : 0 ≤ day) (last : day ≤ 365) :
    0 ≤ monthOfYear day ∧ monthOfYear day ≤ 11 ∧ daysBefore (monthOfYear day) ≤ day ∧
      day ≤ daysBefore (monthOfYear day) + 30 ∧
      (monthOfYear day ∈ [1, 3, 6, 8] → day ≤ daysBefore (monthOfYear day) + 29) ∧
      (monthOfYear day = 11 → day ≤ daysBefore (monthOfYear day) + 28 ∧
        (day = daysBefore (monthOfYear day) + 28 → day = 365)) := by
  have month : monthOfYear day = (5 * day + 2) / 153 := rfl
  generalize monthOfYear day = m at month ⊢
  unfold daysBefore
  simp only [List.mem_cons, List.not_mem_nil, or_false]
  omega

/-- A number of days, taken apart. -/
theorem ofDays_eq (days : Int) :
    ∃ era year day : Int, 0 ≤ year ∧ year ≤ 399 ∧ 0 ≤ day ∧ day ≤ 365 ∧
      (day = 365 → (year + 1) % 4 = 0 ∧ ((year + 1) % 100 ≠ 0 ∨ year + 1 = 400)) ∧
      days + epochDay = era * daysPerEra + daysOfYears year + day ∧
      ofDays days =
        if monthOfYear day < 10 then
          ⟨year + era * 400, (monthOfYear day + 3).toNat,
            (day - daysBefore (monthOfYear day) + 1).toNat⟩
        else
          ⟨year + era * 400 + 1, (monthOfYear day - 9).toNat,
            (day - daysBefore (monthOfYear day) + 1).toNat⟩ := by
  have positive : (0 : Int) < daysPerEra := by decide
  have first := Int.emod_nonneg (days + epochDay) positive.ne'
  have last := Int.emod_lt_of_pos (days + epochDay) positive
  have split := Int.mul_ediv_add_emod (days + epochDay) daysPerEra
  obtain ⟨yearFirst, yearLast, dayFirst, dayLast, leap⟩ := yearOfEra_spec first last
  refine ⟨(days + epochDay) / daysPerEra, yearOfEra ((days + epochDay) % daysPerEra),
    (days + epochDay) % daysPerEra - daysOfYears (yearOfEra ((days + epochDay) % daysPerEra)),
    yearFirst, yearLast, by omega, by omega, fun final => leap (by omega), ?_, rfl⟩
  rw [mul_comm] at split
  omega

/-- A date determines its day. -/
theorem days_ofDays (days : Int) : (ofDays days).days = days := by
  obtain ⟨era, year, day, yearFirst, yearLast, dayFirst, dayLast, -, split, date⟩ := ofDays_eq days
  obtain ⟨monthFirst, monthLast, low, high, -⟩ := monthOfYear_spec dayFirst dayLast
  generalize monthOfYear day = month at *
  have eraOf : (year + era * 400) / 400 = era := by omega
  have yearOf : (year + era * 400) % 400 = year := by omega
  have dayNumber : ((day - daysBefore month + 1).toNat : Int) - 1 = day - daysBefore month := by
    omega
  by_cases early : month < 10
  · have number : ((month + 3).toNat : Int) - 3 = month := by omega
    rw [date, if_pos early, CivilDate.days]
    simp only [if_neg (show ¬ (month + 3).toNat ≤ 2 by omega), number, dayNumber, eraOf, yearOf]
    omega
  · -- January and February belong to the year that began in March before.
    have number : ((month - 9).toNat : Int) + 9 = month := by omega
    rw [date, if_neg early, CivilDate.days]
    simp only [if_pos (show (month - 9).toNat ≤ 2 by omega), number, dayNumber,
      Int.add_sub_cancel, eraOf, yearOf]
    omega

theorem isValid_ofDays (days : Int) : (ofDays days).isValid = true := by
  obtain ⟨era, year, day, yearFirst, yearLast, dayFirst, dayLast, leap, -, date⟩ := ofDays_eq days
  obtain ⟨monthFirst, monthLast, low, high, short, february⟩ := monthOfYear_spec dayFirst dayLast
  generalize monthOfYear day = month at *
  simp only [List.mem_cons, List.not_mem_nil, or_false] at short
  rw [date]
  by_cases early : month < 10
  · rw [if_pos early]
    simp only [isValid, daysInMonth, Bool.and_eq_true, decide_eq_true_eq,
      if_neg (show ¬ (month + 3).toNat = 2 by omega)]
    split_ifs with thirty <;> omega
  · rw [if_neg early]
    simp only [isValid, daysInMonth, isLeapYear, Bool.and_eq_true, decide_eq_true_eq,
      Bool.or_eq_true, beq_iff_eq, bne_iff_ne]
    split_ifs <;> omega

theorem month_day_le {date : CivilDate} (valid : date.isValid = true) :
    date.month ≤ 12 ∧ date.day ≤ 31 := by
  have short : daysInMonth date.year date.month ≤ 31 := by
    unfold daysInMonth
    split_ifs <;> omega
  simp only [isValid, Bool.and_eq_true, decide_eq_true_eq] at valid
  omega

/-- The days of the years 0 to 9999. -/
theorem year_ofDays {days : Int} (first : -719528 ≤ days) (last : days < 2932897) :
    0 ≤ (ofDays days).year ∧ (ofDays days).year ≤ 9999 := by
  obtain ⟨era, year, day, yearFirst, yearLast, dayFirst, dayLast, -, split, date⟩ := ofDays_eq days
  obtain ⟨monthFirst, monthLast, low, high, -⟩ := monthOfYear_spec dayFirst dayLast
  generalize monthOfYear day = month at *
  unfold epochDay daysPerEra daysOfYears daysBefore at *
  have eras : era = -1 ∨ (0 ≤ era ∧ era ≤ 23) ∨ era = 24 := by omega
  rw [date]
  by_cases early : month < 10
  · rw [if_pos early]
    dsimp only
    rcases eras with rfl | eras | rfl <;> omega
  · rw [if_neg early]
    dsimp only
    rcases eras with rfl | eras | rfl <;> omega

end RegisterMap.CivilDate
