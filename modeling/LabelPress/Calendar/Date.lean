/-!
# Calendar dates

Dates of the proleptic Gregorian calendar in the years 1 to 9999.  Days are counted
from the first of January of the year 1, which has day number 1; adding days goes
through that count, and a sum outside the calendar is no date.
-/

namespace LabelPress

/-- A leap year has a 29th of February. -/
def isLeapYear (year : Nat) : Bool :=
  year % 4 == 0 && (year % 100 != 0 || year % 400 == 0)

/-- The number of days of a month. -/
def daysInMonth
    (year : Nat)
    (month : Nat) : Nat :=
  if month = 2 then
    if isLeapYear year then 29 else 28
  else if month = 4 ∨ month = 6 ∨ month = 9 ∨ month = 11 then
    30
  else
    31

/-- A date of the calendar. -/
structure Date where
  /-- The year, from 1 to 9999. -/
  year : Nat
  /-- The month, from 1 to 12. -/
  month : Nat
  /-- The day of the month, from 1. -/
  day : Nat
  /-- The year is one of the calendar. -/
  year_mem : 1 ≤ year ∧ year ≤ 9999
  /-- The month is one of the year. -/
  month_mem : 1 ≤ month ∧ month ≤ 12
  /-- The day is one of the month. -/
  day_mem : 1 ≤ day ∧ day ≤ daysInMonth year month
deriving DecidableEq

namespace Date

/-- The date with a year, a month and a day, if there is one. -/
def ofYearMonthDay? (year month day : Nat) : Option Date :=
  if year_mem : 1 ≤ year ∧ year ≤ 9999 then
    if month_mem : 1 ≤ month ∧ month ≤ 12 then
      if day_mem : 1 ≤ day ∧ day ≤ daysInMonth year month then
        some ⟨year, month, day, year_mem, month_mem, day_mem⟩
      else
        none
    else
      none
  else
    none

/-- The number of days before the first of January of a year. -/
def daysBeforeYear (year : Nat) : Nat :=
  let past := year - 1
  past * 365 + past / 4 - past / 100 + past / 400

/-- The number of days of a year before the first of a month. -/
def daysBeforeMonth
    (year : Nat)
    (month : Nat) : Nat :=
  (List.range' 1 (month - 1)).foldl (fun days past => days + daysInMonth year past) 0

/-- The number of a date in the count of days. -/
def dayNumber (date : Date) : Nat :=
  daysBeforeYear date.year + daysBeforeMonth date.year date.month + date.day

/--
The year that holds a day number.  The mean length of a year gives it up to one, so
the last of three neighbouring years that has begun is the one.
-/
def yearOfDayNumber (number : Nat) : Nat :=
  let estimate := (number - 1) * 400 / 146097 + 1
  if daysBeforeYear (estimate + 1) < number then
    estimate + 1
  else if daysBeforeYear estimate < number then
    estimate
  else
    estimate - 1

/-- The month of a year that holds a day of the year: the last one that has begun. -/
def monthOfDay
    (year : Nat)
    (day : Nat) : Nat :=
  ((List.range' 1 12).filter fun month => daysBeforeMonth year month < day).length

/-- The date with a day number, if there is one. -/
def ofDayNumber? (number : Int) : Option Date :=
  if number < 1 then
    none
  else
    let count := number.toNat
    let year := yearOfDayNumber count
    let dayOfYear := count - daysBeforeYear year
    let month := monthOfDay year dayOfYear
    ofYearMonthDay? year month (dayOfYear - daysBeforeMonth year month)

/-- The date a number of days later, if it lies in the calendar. -/
def addDays?
    (date : Date)
    (days : Int) : Option Date :=
  ofDayNumber? (date.dayNumber + days)

/-- The first of January 1970. -/
def epoch : Date :=
  ⟨1970, 1, 1, by decide, by decide, by decide⟩

end Date
end LabelPress
