/-!
# The calendar

Dates of the years 1 to 9999, times of day and time zones: which of them there are, and what is said
of those that there are not. Days are also counted from the first day of the year 1, which is day 1
and a Monday, so that a date can be told by its week.
-/

namespace ProfilePolicy.Calendar

def isLeapYear (year : Nat) : Bool :=
  year % 4 == 0 && (year % 100 != 0 || year % 400 == 0)

def daysInMonth (year month : Nat) : Nat :=
  if month == 2 then (if isLeapYear year then 29 else 28)
  else if [4, 6, 9, 11].contains month then 30
  else 31

def dateProblem? (year month day : Nat) : Option String :=
  if year == 0 || 9999 < year then some ("year " ++ toString year ++ " is out of range")
  else if month == 0 || 12 < month then some "month must be in 1..12"
  else if day == 0 || daysInMonth year month < day then some "day is out of range for month"
  else none

def clockProblem? (hour minute second : Nat) : Option String :=
  if 23 < hour then some "hour must be in 0..23"
  else if 59 < minute then some "minute must be in 0..59"
  else if 59 < second then some "second must be in 0..59"
  else none

/-! ## Time zones -/

/-- The number of microseconds of a second. -/
def secondLength : Nat := 1000000

/-- The number of microseconds of a day. -/
def dayLength : Nat := 86400 * secondLength

/-- A span of microseconds in days, seconds and what is left; days may be negative. -/
def spanText (microseconds : Int) : String :=
  let left := (microseconds % dayLength).toNat
  let part (name : String) (count : Nat) : String :=
    if count == 0 then "" else ", " ++ name ++ "=" ++ toString count
  "datetime.timedelta(days=" ++ toString (microseconds / dayLength) ++
    part "seconds" (left / secondLength) ++ part "microseconds" (left % secondLength) ++ ")"

/-- Why a time zone so many microseconds ahead is none; it is less than a day away. -/
def zoneProblem? (offset : Int) : Option String :=
  if offset.natAbs < dayLength then none
  else
    some ("offset must be a timedelta strictly between -timedelta(hours=24) and " ++
      "timedelta(hours=24), not " ++ spanText offset ++ ".")

/-! ## Days and weeks -/

def daysBeforeYear (year : Nat) : Nat :=
  let past := year - 1
  365 * past + past / 4 - past / 100 + past / 400

def firstDay (year : Nat) : Nat :=
  daysBeforeYear year + 1

/-- The days between a day and the Monday before it. -/
def weekday (day : Nat) : Nat :=
  (day + 6) % 7

/-- The Monday of the first week of a year, which is the week of its first Thursday. -/
def firstMonday (year : Nat) : Nat :=
  let first := firstDay year
  if 3 < weekday first then first + 7 - weekday first else first - weekday first

def weeksOf (year : Nat) : Nat :=
  (firstMonday (year + 1) - firstMonday year) / 7

/-- The month and the day of the month of a day of a year, the first being day 1. -/
def monthAndDay (year : Nat) : Nat → Nat → Nat × Nat → Nat × Nat
  | 0, _, found => found
  | months + 1, month, (_, day) =>
    if day ≤ daysInMonth year month then (month, day)
    else monthAndDay year months (month + 1) (month + 1, day - daysInMonth year month)

/-- The year, month and day of a day. The year is known up to one. -/
def dateOf (nearYear day : Nat) : Nat × Nat × Nat :=
  let year :=
    if day < firstDay nearYear then nearYear - 1
    else if firstDay (nearYear + 1) ≤ day then nearYear + 1
    else nearYear
  (year, monthAndDay year 12 1 (1, day + 1 - firstDay year))

/-- The date of a day of a week of a year, if there are such a week and day. A year 0 would have 52
weeks; their days are told by a month that there is not. -/
def dateOfWeek? (year week day : Nat) : Option (Nat × Nat × Nat) :=
  if week == 0 || (if year == 0 then 52 else weeksOf year) < week || day == 0 || 7 < day then none
  else if year == 0 then some (1, 0, day)
  else some (dateOf year (firstMonday year + 7 * (week - 1) + day - 1))

end ProfilePolicy.Calendar
