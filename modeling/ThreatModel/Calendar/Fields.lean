import ThreatModel.Calendar.Date

/-!
What a text says about a date, field by field, and the date that follows from it. Fields that do not
agree, with each other or with the date, name no date.
-/

namespace ThreatModel.Calendar

inductive Field
  | year
  | century
  | yearOfCentury
  | isoYear
  | isoCentury
  | isoYearOfCentury
  | quarter
  | month
  | day
  | weekFromSunday
  | weekFromMonday
  | isoWeek
  | weekday
  | dayOfYear
  | halfDay
  | hourOfHalf
  | minute
  | second
  | nanosecond
  | timestamp
  | offset
deriving DecidableEq, Repr

/-- The least and the greatest value. -/
def Field.range : Field → Int × Int
  | .year => (-Int.pow 2 31, Int.pow 2 31 - 1)
  | .century => (0, Int.pow 2 31 - 1)
  | .yearOfCentury => (0, 99)
  | .isoYear => (-Int.pow 2 31, Int.pow 2 31 - 1)
  | .isoCentury => (0, Int.pow 2 31 - 1)
  | .isoYearOfCentury => (0, 99)
  | .quarter => (1, 4)
  | .month => (1, 12)
  | .day => (1, 31)
  | .weekFromSunday => (0, 53)
  | .weekFromMonday => (0, 53)
  | .isoWeek => (1, 53)
  | .weekday => (0, 6)
  | .dayOfYear => (1, 366)
  | .halfDay => (0, 1)
  | .hourOfHalf => (0, 11)
  | .minute => (0, 59)
  | .second => (0, 60)
  | .nanosecond => (0, 999999999)
  | .timestamp => (0, Int.pow 2 63 - 1)
  | .offset => (-Int.pow 2 31, Int.pow 2 31 - 1)

/-- The fields that are known. -/
structure Fields where
  known : List (Field × Int)
deriving DecidableEq, Repr

namespace Fields

/-- Nothing is known. -/
def empty : Fields := ⟨[]⟩

def get? (fields : Fields) (field : Field) : Option Int :=
  (fields.known.find? (·.1 == field)).map (·.2)

/-- The value of a field that holds no negative number. -/
def nat? (fields : Fields) (field : Field) : Option Nat :=
  (fields.get? field).map Int.toNat

/-- Learn the value of a field: it lies in the field's range and agrees with what is known. -/
def learn? (fields : Fields) (field : Field) (value : Int) : Option Fields :=
  if value < field.range.1 ∨ field.range.2 < value then none
  else
    match fields.get? field with
    | some known => if known = value then some fields else none
    | none => some ⟨(field, value) :: fields.known⟩

/-- A field is unknown or has the value. -/
def agrees (fields : Fields) (field : Field) (value : Int) : Bool :=
  (fields.get? field).all (· == value)

/-- The year, from the full year or from its two halves. A year of a century alone lies between
1970 and 2069. None inside says that nothing is known of the year. -/
def resolveYear? (year century yearOfCentury : Option Int) : Option (Option Int) :=
  match year, century, yearOfCentury with
  | year, none, none => some year
  | some year, century, yearOfCentury =>
      if 0 ≤ year ∧ century.all (· == year / 100) ∧ yearOfCentury.all (· == year % 100) then
        some (some year)
      else none
  | none, some century, some rest =>
      let year := century * 100 + rest
      if year < Int.pow 2 31 then some (some year) else none
  | none, none, some rest => some (some (rest + if rest < 70 then 2000 else 1900))
  | none, some _, none => none

/-- A year agrees with what is known of it and of its halves; a negative one has no halves. -/
def agreesWithYear (fields : Fields) (full hundreds rest : Field) (year : Int) : Bool :=
  fields.agrees full year &&
    if 0 ≤ year then fields.agrees hundreds (year / 100) && fields.agrees rest (year % 100)
    else (fields.get? hundreds).isNone && (fields.get? rest).isNone

def agreesWithMonthDay (fields : Fields) (date : Date) : Bool :=
  fields.agreesWithYear .year .century .yearOfCentury date.year &&
    fields.agrees .month date.month && fields.agrees .day date.day

def agreesWithIsoWeek (fields : Fields) (date : Date) : Bool :=
  fields.agreesWithYear .isoYear .isoCentury .isoYearOfCentury date.isoWeek.1 &&
    fields.agrees .isoWeek date.isoWeek.2 && fields.agrees .weekday date.weekday

def agreesWithDayOfYear (fields : Fields) (date : Date) : Bool :=
  fields.agrees .dayOfYear date.dayOfYear && fields.agrees .weekFromSunday (date.week sunday) &&
    fields.agrees .weekFromMonday (date.week monday)

/-- The date that the fields name: by month and day, else by the day of the year, else by a week of
the year, else by a week of the ISO calendar. Everything else that is known agrees with it. -/
def date? (fields : Fields) : Option Date := do
  let year? ← resolveYear? (fields.get? .year) (fields.get? .century) (fields.get? .yearOfCentury)
  let isoYear? ← resolveYear? (fields.get? .isoYear) (fields.get? .isoCentury)
    (fields.get? .isoYearOfCentury)
  let weekday? := fields.nat? .weekday
  let byWeek : Option Int → Field → (Int → Nat → Weekday → Option Date) → Option (Option Date) :=
    fun year? week build =>
      match year?, fields.nat? week, weekday? with
      | some year, some week, some weekday => some (build year week weekday)
      | _, _, _ => none
  let named : Option (Option Date) :=
    match year?, fields.nat? .month, fields.nat? .day, fields.nat? .dayOfYear with
    | some year, some month, some day, _ => some (Date.ofMonthDay? year month day)
    | some year, _, _, some dayOfYear => some (Date.ofDayOfYear? year dayOfYear)
    | _, _, _, _ => none
  let date ← (((named.or
    (byWeek year? .weekFromSunday fun year week weekday =>
      Date.ofWeek? year week weekday sunday)).or
    (byWeek year? .weekFromMonday fun year week weekday =>
      Date.ofWeek? year week weekday monday)).or
    (byWeek isoYear? .isoWeek Date.ofIsoWeek?)).join
  if fields.agreesWithMonthDay date ∧ fields.agreesWithIsoWeek date ∧
      fields.agreesWithDayOfYear date ∧ fields.agrees .quarter date.quarter then
    some date
  else none

end Fields

end ThreatModel.Calendar
