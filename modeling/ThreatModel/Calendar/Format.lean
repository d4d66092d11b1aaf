import ThreatModel.Calendar.Fields
import ThreatModel.Unicode.Blank

/-!
Date formats: literal text, white space, and directives that begin with a percent sign. Between the
sign and the letter of a single number a hyphen, a zero or an underscore may stand; it asks for a
padding, which makes no difference to reading.
-/

namespace ThreatModel.Calendar

/-- What a number in a text is. -/
inductive NumberKind
  /-- The value of a field as it is. -/
  | plain (field : Field)
  /-- The hour of the day. -/
  | hour
  /-- The hour on a clock of twelve. -/
  | clockHour
  /-- The weekday, counted from Sunday as zero. -/
  | daysFromSunday
  /-- The weekday, counted from Monday as one. -/
  | weekdayNumber
deriving DecidableEq, Repr

inductive Directive
  | literal (text : List Char)
  /-- Any amount of white space. -/
  | blanks
  | number (kind : NumberKind)
  /-- A month by name; the `long` name may be cut to three letters. -/
  | monthName (long : Bool)
  /-- A weekday by name; the `long` name may be cut to three letters. -/
  | weekdayName (long : Bool)
  /-- Before or after noon. -/
  | halfDay
  /-- A fraction of a second after its point, of any or of a given length; it may be absent. -/
  | fraction (digits : Option Nat)
  /-- A fraction of a second without a point. -/
  | bareFraction (digits : Nat)
  /-- The name of a time zone. -/
  | zoneName
  /-- The offset of a time zone, whose minutes may be absent if `shortened`, with `Z` for none. -/
  | offset (shortened : Bool)
  /-- A date and time with an offset. -/
  | instant
deriving DecidableEq, Repr

namespace Directive

def field (field : Field) : Directive := .number (.plain field)

/-- Literal text of one character. -/
def mark (c : Char) : Directive := .literal [c]

def clock : List Directive :=
  [.number .hour, mark ':', field .minute, mark ':', field .second]

/-- What a directive's letter stands for. -/
def ofLetter? : Char → Option (List Directive)
  | 'A' => some [.weekdayName true]
  | 'B' => some [.monthName true]
  | 'C' => some [field .century]
  | 'D' => some [field .month, mark '/', field .day, mark '/', field .yearOfCentury]
  | 'F' => some [field .year, mark '-', field .month, mark '-', field .day]
  | 'G' => some [field .isoYear]
  | 'H' => some [.number .hour]
  | 'I' => some [.number .clockHour]
  | 'M' => some [field .minute]
  | 'P' => some [.halfDay]
  | 'R' => some [.number .hour, mark ':', field .minute]
  | 'S' => some [field .second]
  | 'T' => some clock
  | 'U' => some [field .weekFromSunday]
  | 'V' => some [field .isoWeek]
  | 'W' => some [field .weekFromMonday]
  | 'X' => some clock
  | 'Y' => some [field .year]
  | 'Z' => some [.zoneName]
  | 'a' => some [.weekdayName false]
  | 'b' => some [.monthName false]
  | 'c' => some ([.weekdayName false, .blanks, .monthName false, .blanks, field .day, .blanks] ++
      clock ++ [.blanks, field .year])
  | 'd' => some [field .day]
  | 'e' => some [field .day]
  | 'f' => some [field .nanosecond]
  | 'g' => some [field .isoYearOfCentury]
  | 'h' => some [.monthName false]
  | 'j' => some [field .dayOfYear]
  | 'k' => some [.number .hour]
  | 'l' => some [.number .clockHour]
  | 'm' => some [field .month]
  | 'n' => some [.blanks]
  | 'p' => some [.halfDay]
  | 'q' => some [field .quarter]
  | 'r' => some [.number .clockHour, mark ':', field .minute, mark ':', field .second, .blanks,
      .halfDay]
  | 's' => some [field .timestamp]
  | 't' => some [.blanks]
  | 'u' => some [.number .weekdayNumber]
  | 'v' => some [field .day, mark '-', .monthName false, mark '-', field .year]
  | 'w' => some [.number .daysFromSunday]
  | 'x' => some [field .month, mark '/', field .day, mark '/', field .yearOfCentury]
  | 'y' => some [field .yearOfCentury]
  | 'z' => some [.offset false]
  | '+' => some [.instant]
  | '%' => some [mark '%']
  | _ => none

/-- A directive after its percent sign, with what follows it. -/
def read? : List Char → Option (List Directive × List Char)
  | ':' :: ':' :: ':' :: 'z' :: rest => some ([.offset false], rest)
  | ':' :: ':' :: 'z' :: rest => some ([.offset false], rest)
  | ':' :: 'z' :: rest => some ([.offset false], rest)
  | '#' :: 'z' :: rest => some ([.offset true], rest)
  | '.' :: 'f' :: rest => some ([.fraction none], rest)
  | '.' :: '3' :: 'f' :: rest => some ([.fraction (some 3)], rest)
  | '.' :: '6' :: 'f' :: rest => some ([.fraction (some 6)], rest)
  | '.' :: '9' :: 'f' :: rest => some ([.fraction (some 9)], rest)
  | '3' :: 'f' :: rest => some ([.bareFraction 3], rest)
  | '6' :: 'f' :: rest => some ([.bareFraction 6], rest)
  | '9' :: 'f' :: rest => some ([.bareFraction 9], rest)
  | c :: rest =>
      if c = '-' ∨ c = '0' ∨ c = '_' then
        match rest with
        | letter :: rest =>
            match ofLetter? letter with
            | some [.number kind] => some ([.number kind], rest)
            | _ => none
        | [] => none
      else (ofLetter? c).map (·, rest)
  | [] => none

/-- The directives of a format; `fuel` bounds their number. -/
def readAll? : Nat → List Char → Option (List Directive)
  | _, [] => some []
  | 0, _ :: _ => none
  | fuel + 1, '%' :: rest => do
      let (directives, rest) ← read? rest
      (readAll? fuel rest).map (directives ++ ·)
  | fuel + 1, c :: rest =>
      if Unicode.isBlank c then (readAll? fuel rest).map (.blanks :: ·)
      else (readAll? fuel rest).map (mark c :: ·)

/-- The directives of a format; none when the format has an unknown one. -/
def ofFormat? (format : String) : Option (List Directive) :=
  readAll? format.length format.toList

end Directive

end ThreatModel.Calendar
