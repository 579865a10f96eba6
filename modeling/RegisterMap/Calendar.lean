import RegisterMap.Numeral.Digits

/-! # Instants and their text

An instant is a number of seconds since the beginning of 1970 and a fraction of a second in
nanoseconds. Its text is a date of the Gregorian calendar and a time of day in universal time,
`2024-03-01T12:00:00.5Z`, with as many digits of the fraction as it needs.

Dates are counted in years that begin on 1 March, so that the leap day is the last day of its year:
a date is then a number of days in closed form, and `CivilDate.ofDays` undoes `CivilDate.days` by
division alone. -/

namespace RegisterMap

/-- A date of the Gregorian calendar, which is extended to all years. -/
structure CivilDate where
  year : Int
  month : Nat
  day : Nat
  deriving DecidableEq, Repr

namespace CivilDate

/-- The number of days before the first of a month, the months counted from March. -/
def daysBefore (month : Int) : Int :=
  (153 * month + 2) / 5

/-- The number of days before a year that begins in March, the years counted within an era of
    400. -/
def daysOfYears (year : Int) : Int :=
  365 * year + year / 4 - year / 100

/-- The number of days of the 400 years after which the calendar repeats. -/
def daysPerEra : Int := 146097

/-- The number of days from 1 March of the year 0 to 1 January 1970. -/
def epochDay : Int := 719468

/-- The number of days since 1 January 1970. -/
def days (date : CivilDate) : Int :=
  let month : Int := if date.month ≤ 2 then date.month + 9 else date.month - 3
  let year := if date.month ≤ 2 then date.year - 1 else date.year
  year / 400 * daysPerEra + daysOfYears (year % 400) + daysBefore month + (date.day - 1) - epochDay

/-- The date a number of days after 1 January 1970. -/
def ofDays (days : Int) : CivilDate :=
  let day := days + epochDay
  let era := day / daysPerEra
  let dayOfEra := day % daysPerEra
  let yearOfEra :=
    (dayOfEra - dayOfEra / 1460 + dayOfEra / 36524 - dayOfEra / 146096) / 365
  let dayOfYear := dayOfEra - daysOfYears yearOfEra
  let month := (5 * dayOfYear + 2) / 153
  let date := dayOfYear - daysBefore month + 1
  let year := yearOfEra + era * 400
  if month < 10 then ⟨year, (month + 3).toNat, date.toNat⟩
  else ⟨year + 1, (month - 9).toNat, date.toNat⟩

/-- Whether a year has a leap day. -/
def isLeapYear (year : Int) : Bool :=
  year % 4 == 0 && (year % 100 != 0 || year % 400 == 0)

def daysInMonth (year : Int) (month : Nat) : Nat :=
  if month = 2 then
    if isLeapYear year then 29 else 28
  else if month = 4 ∨ month = 6 ∨ month = 9 ∨ month = 11 then 30
  else 31

/-- Whether the month has such a day. -/
def isValid (date : CivilDate) : Bool :=
  1 ≤ date.month && date.month ≤ 12
    && 1 ≤ date.day && date.day ≤ daysInMonth date.year date.month

end CivilDate

/-- A point in time. -/
structure Instant where
  /-- Seconds since the beginning of 1970. -/
  seconds : Int
  /-- The fraction of the second, below a billion. -/
  nanos : Nat
  deriving DecidableEq, Repr

namespace Instant

/-- The beginning of the year 1, which stands for a time that is not set. -/
def unset : Instant := ⟨-62135596800, 0⟩

/-- The instant some seconds and nanoseconds after the beginning of 1970. -/
def ofParts (seconds nanos : Int) : Instant :=
  ⟨seconds + nanos / 1000000000, (nanos % 1000000000).toNat⟩

/-- The first second that can be shown. -/
def firstSecond : Int := -9223372028715321600

/-- The second of the calendar for a number of 64 bits. The calendar has `2 ^ 64` seconds from
    `firstSecond` on, and earlier numbers continue after its end. -/
def calendarSecond (seconds : Int) : Int :=
  if seconds < firstSecond then seconds + Nat.pow 2 64 else seconds

/-- A number with at least `width` digits, after a sign if it is negative. -/
def padded (width : Nat) (i : Int) : List Char :=
  let digits := Numeral.zeroPadded width (Numeral.chars 10 i.natAbs)
  if i < 0 then '-' :: digits else digits

/-- The fraction of a second: nothing if it is zero, and else a point and the digits up to the last
    one that is not zero. -/
def fraction (nanos : Nat) : List Char :=
  if nanos = 0 then []
  else '.' :: ((padded 9 nanos).reverse.dropWhile (· == '0')).reverse

/-- The text of an instant in universal time. -/
def text (t : Instant) : String :=
  let second := calendarSecond t.seconds
  let date := CivilDate.ofDays (second / 86400)
  let time := second % 86400
  String.ofList (padded 4 date.year ++ '-' :: padded 2 date.month ++ '-' :: padded 2 date.day
    ++ 'T' :: padded 2 (time / 3600) ++ ':' :: padded 2 (time / 60 % 60) ++ ':' :: padded 2 (time % 60)
    ++ fraction t.nanos ++ ['Z'])

/-! ## Reading -/

/-- The value of a decimal digit. -/
def digit? (c : Char) : Option Nat :=
  if '0' ≤ c ∧ c ≤ '9' then some (c.toNat - 48) else none

/-- Reads exactly `count` digits onto a number. -/
def readDigits : (count : Nat) → (number : Nat) → List Char → Option (Nat × List Char)
  | 0, number, cs => some (number, cs)
  | count + 1, number, c :: cs =>
    match digit? c with
    | some d => readDigits count (number * 10 + d) cs
    | none => none
  | _ + 1, _, [] => none

/-- Reads two digits, or also a single one. -/
def readPair (short : Bool) (cs : List Char) : Option (Nat × List Char) :=
  match readDigits 2 0 cs with
  | some r => some r
  | none => if short then readDigits 1 0 cs else none

/-- Reads one character that has to stand there. -/
def readMark (mark : Char) : List Char → Option (List Char)
  | c :: cs => if c = mark then some cs else none
  | [] => none

/-- Reads a fraction of a second if there is one: a point or comma and at least one digit. Digits
    after the ninth do not count. -/
def readFraction : List Char → Nat × List Char
  | m :: cs =>
    let digits := cs.takeWhile fun c => (digit? c).isSome
    if (m == '.' || m == ',') && !digits.isEmpty then
      let nine := (digits ++ List.replicate 9 '0').take 9
      (Numeral.ofDigits 10 (nine.filterMap digit?), cs.drop digits.length)
    else (0, m :: cs)
  | [] => (0, [])

/-- Reads the offset from universal time, in seconds: the letter `Z`, or a sign, hours and minutes.
    Offsets of 24 hours and of 60 minutes are accepted. Nothing may follow. -/
def readOffset : List Char → Option Int
  | ['Z'] => some 0
  | sign :: cs => do
    let (hours, cs) ← readDigits 2 0 cs
    let (minutes, rest) ← readDigits 2 0 (← readMark ':' cs)
    if !rest.isEmpty || 24 < hours || 60 < minutes then none
    else if sign == '+' then some ((hours * 60 + minutes) * 60 : Nat)
    else if sign == '-' then some (-((hours * 60 + minutes) * 60 : Nat))
    else none
  | [] => none

/-- Reads a date; `short` allows single digits for month and day. -/
def readDate (short : Bool) (cs : List Char) : Option (CivilDate × List Char) := do
  let (year, cs) ← readDigits 4 0 cs
  let (month, cs) ← readPair short (← readMark '-' cs)
  let (day, cs) ← readPair short (← readMark '-' cs)
  let date : CivilDate := ⟨year, month, day⟩
  if date.isValid then some (date, cs) else none

/-- Reads a time of day in seconds and nanoseconds; the hour may have a single digit, and if `short`
    minute and second too. -/
def readTime (short : Bool) (cs : List Char) : Option (Nat × Nat × List Char) := do
  let (hour, cs) ← readPair true cs
  let (minute, cs) ← readPair short (← readMark ':' cs)
  let (second, cs) ← readPair short (← readMark ':' cs)
  let (nanos, cs) := readFraction cs
  if 24 ≤ hour || 60 ≤ minute || 60 ≤ second then none
  else some ((hour * 60 + minute) * 60 + second, nanos, cs)

/-- Reads the text of an instant, with any offset. -/
def parse? (text : String) : Option Instant := do
  let (date, cs) ← readDate false text.toList
  let (second, nanos, cs) ← readTime false (← readMark 'T' cs)
  let offset ← readOffset cs
  return ⟨date.days * 86400 + second - offset, nanos⟩

/-- Whether a text looks like a point in time: a date alone, a date and a time of day after spaces,
    or a date, the letter `T` in either case, a time of day and an offset. Single digits will do. -/
def isTimestamp (text : String) : Bool :=
  match readDate true text.toList with
  | none => false
  | some (_, []) => true
  | some (_, c :: cs) =>
    if c = ' ' then
      match readTime true (cs.dropWhile (· == ' ')) with
      | some (_, _, rest) => rest.isEmpty
      | none => false
    else if c = 'T' ∨ c = 't' then
      match readTime true cs with
      | some (_, _, rest) => (readOffset rest).isSome
      | none => false
    else false

end Instant

end RegisterMap
