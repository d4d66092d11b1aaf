/-!
Dates of the Gregorian calendar, continued in both directions without a gap at year zero. A date can
be named by month and day, by the day of the year, by a week of the year and a weekday, or by a week
of the ISO calendar; each way refuses what no day has.
-/

namespace ThreatModel.Calendar

def isLeapYear (year : Int) : Bool :=
  year % 4 == 0 && (year % 100 != 0 || year % 400 == 0)

def daysInYear (year : Int) : Nat := if isLeapYear year then 366 else 365

/-- The lengths of the months. -/
def monthLengths (year : Int) : List Nat :=
  [31, if isLeapYear year then 29 else 28, 31, 30, 31, 30, 31, 31, 30, 31, 30, 31]

/-- The days of the week, from Monday as zero. -/
abbrev Weekday := Nat

def monday : Weekday := 0

def sunday : Weekday := 6

/-- How many days a weekday comes after another. -/
def daysSince (weekday start : Weekday) : Nat := (weekday + 7 - start) % 7

/-- A day of a year. Years reach from -262143 to 262142. -/
structure Date where
  year : Int
  dayOfYear : Nat
  inYear : 1 ≤ dayOfYear ∧ dayOfYear ≤ daysInYear year
  supported : -262143 ≤ year ∧ year ≤ 262142

namespace Date

def ofDayOfYear? (year : Int) (dayOfYear : Nat) : Option Date :=
  if inYear : 1 ≤ dayOfYear ∧ dayOfYear ≤ daysInYear year then
    if supported : -262143 ≤ year ∧ year ≤ 262142 then some ⟨year, dayOfYear, inYear, supported⟩
    else none
  else none

def ofMonthDay? (year : Int) (month day : Nat) : Option Date := do
  let length ← if month = 0 then none else (monthLengths year)[month - 1]?
  if 1 ≤ day ∧ day ≤ length then
    ofDayOfYear? year (((monthLengths year).take (month - 1)).foldl (· + ·) 0 + day)
  else none

/-- The month and the day that a day of the year is, `passed` months after the beginning. -/
def monthDayFrom (passed dayOfYear : Nat) : List Nat → Nat × Nat
  | [] => (passed + 1, dayOfYear)
  | length :: rest =>
      if dayOfYear ≤ length then (passed + 1, dayOfYear)
      else monthDayFrom (passed + 1) (dayOfYear - length) rest

def monthDay (date : Date) : Nat × Nat := monthDayFrom 0 date.dayOfYear (monthLengths date.year)

def month (date : Date) : Nat := date.monthDay.1

def day (date : Date) : Nat := date.monthDay.2

def quarter (date : Date) : Nat := (date.month - 1) / 3 + 1

/-- How many days lie between the first day of year one and the first day of a year. -/
def daysBefore (year : Int) : Int :=
  let passed := year - 1
  365 * passed + passed / 4 - passed / 100 + passed / 400

/-- The weekday of a day of a year. The first day of year one is a Monday. -/
def weekdayOf (year : Int) (dayOfYear : Int) : Weekday :=
  ((daysBefore year + dayOfYear - 1) % 7).toNat

def weekday (date : Date) : Weekday := weekdayOf date.year date.dayOfYear

/-- The week of the year, where weeks begin at `start` and the first such day begins week one. -/
def week (date : Date) (start : Weekday) : Nat :=
  (date.dayOfYear + 6 - daysSince date.weekday start) / 7

/-- A day of the year that may lie in the year before or after. -/
def ofOffset? (year dayOfYear : Int) : Option Date :=
  if dayOfYear < 1 then ofDayOfYear? (year - 1) (dayOfYear + daysInYear (year - 1)).toNat
  else if dayOfYear ≤ daysInYear year then ofDayOfYear? year dayOfYear.toNat
  else ofDayOfYear? (year + 1) (dayOfYear - daysInYear year).toNat

/-- The year and week of the ISO calendar, which are those of the Thursday of the week. -/
def isoWeek (date : Date) : Int × Nat :=
  let thursday : Int := date.dayOfYear + 3 - date.weekday
  if thursday < 1 then
    (date.year - 1, (thursday + daysInYear (date.year - 1) - 1).toNat / 7 + 1)
  else if thursday ≤ daysInYear date.year then (date.year, (thursday - 1).toNat / 7 + 1)
  else (date.year + 1, (thursday - daysInYear date.year - 1).toNat / 7 + 1)

/-- A year has 53 weeks of the ISO calendar if it begins or ends with a Thursday. -/
def isoWeeks (year : Int) : Nat :=
  if weekdayOf year 1 = 3 ∨ weekdayOf year (daysInYear year) = 3 then 53 else 52

def ofIsoWeek? (year : Int) (week : Nat) (weekday : Weekday) : Option Date :=
  if 1 ≤ week ∧ week ≤ isoWeeks year then
    ofOffset? year ((4 - weekdayOf year 4 : Int) + 7 * (week - 1) + weekday)
  else none

/-- The weekday of a week, where weeks begin at `start`. -/
def ofWeek? (year : Int) (week : Nat) (weekday start : Weekday) : Option Date :=
  let firstStart : Int := 1 + daysSince start (weekdayOf year 1)
  let dayOfYear : Int := firstStart + ((week : Int) - 1) * 7 + daysSince weekday start
  if dayOfYear < 1 then none else ofDayOfYear? year dayOfYear.toNat

end Date

end ThreatModel.Calendar
