import ThreatModel.Calendar.Format

/-!
Reading dates by a format. Numbers may follow white space and have fewer digits than usual; the
whole text has to be read, and what it says has to name one date.
-/

namespace ThreatModel.Calendar

/-- What a text told so far, and what is left of it. -/
abbrev Progress := List Char × Fields

def dropBlanks (chars : List Char) : List Char := chars.dropWhile Unicode.isBlank

/-- The value of decimal digits. -/
def digitsValue (digits : List Char) : Nat :=
  digits.foldl (fun value digit => value * 10 + (digit.toNat - '0'.toNat)) 0

/-- At least one digit, and at most `width` of them if there is a width. -/
def takeNumber? (width : Option Nat) (chars : List Char) : Option (Nat × List Char) :=
  let digits := chars.takeWhile Char.isDigit
  let taken := match width with
    | some width => digits.take width
    | none => digits
  if taken.isEmpty then none else some (digitsValue taken, chars.drop taken.length)

/-- Exactly `count` digits. -/
def takeDigits? (count : Nat) (chars : List Char) : Option (Nat × List Char) :=
  let digits := chars.take count
  if digits.length = count ∧ digits.all Char.isDigit then
    some (digitsValue digits, chars.drop count)
  else none

namespace NumberKind

/-- How many digits a number has at most. -/
def width : NumberKind → Option Nat
  | .plain .year => some 4
  | .plain .isoYear => some 4
  | .plain .dayOfYear => some 3
  | .plain .quarter => some 1
  | .plain .nanosecond => some 9
  | .plain .timestamp => none
  | .daysFromSunday => some 1
  | .weekdayNumber => some 1
  | _ => some 2

/-- A sign may stand before the number, and then any number of digits follows. -/
def isSigned (kind : NumberKind) : Bool :=
  kind == .plain .year || kind == .plain .isoYear

/-- Learn a number. -/
def learn? (kind : NumberKind) (value : Int) (fields : Fields) : Option Fields :=
  match kind with
  | .plain field => fields.learn? field value
  | .hour =>
      (fields.learn? .halfDay (value / 12)).bind (·.learn? .hourOfHalf (value % 12))
  | .clockHour =>
      if 1 ≤ value ∧ value ≤ 12 then fields.learn? .hourOfHalf (value % 12) else none
  | .daysFromSunday =>
      if 0 ≤ value ∧ value ≤ 6 then fields.learn? .weekday ((value + 6) % 7) else none
  | .weekdayNumber => fields.learn? .weekday (value - 1)

/-- Read a number and learn it. -/
def read? (kind : NumberKind) : Progress → Option Progress
  | (chars, fields) => do
      let (value, rest) ← match dropBlanks chars, kind.isSigned with
        | '-' :: rest, true =>
            (takeNumber? none rest).map fun (value, rest) => (-(value : Int), rest)
        | '+' :: rest, true =>
            (takeNumber? none rest).map fun (value, rest) => ((value : Int), rest)
        | rest, _ =>
            (takeNumber? kind.width rest).map fun (value, rest) => ((value : Int), rest)
      (kind.learn? value fields).map (rest, ·)

end NumberKind

/-- An ASCII letter as a small letter; other characters stay. -/
def smallLetter (c : Char) : Char :=
  if 'A' ≤ c ∧ c ≤ 'Z' then .ofNat (c.toNat + 32) else c

/-- The rest of a text that begins with a word, capital or small. -/
def afterWord? : List Char → List Char → Option (List Char)
  | [], chars => some chars
  | expected :: word, c :: chars =>
      if smallLetter c = expected then afterWord? word chars else none
  | _ :: _, [] => none

/-- The months by their first three letters and the rest of their names. -/
def monthNames : List (String × String) :=
  [("jan", "uary"), ("feb", "ruary"), ("mar", "ch"), ("apr", "il"), ("may", ""), ("jun", "e"),
    ("jul", "y"), ("aug", "ust"), ("sep", "tember"), ("oct", "ober"), ("nov", "ember"),
    ("dec", "ember")]

/-- The weekdays by their first three letters and the rest of their names. -/
def weekdayNames : List (String × String) :=
  [("mon", "day"), ("tue", "sday"), ("wed", "nesday"), ("thu", "rsday"), ("fri", "day"),
    ("sat", "urday"), ("sun", "day")]

/-- Read a name, in full if it stands in full and `long` names are wanted; the result counts from
`first`. -/
def readName? (long : Bool) (first : Nat) :
    List (String × String) → List Char → Option (Nat × List Char)
  | [], _ => none
  | (beginning, ending) :: names, chars =>
      match afterWord? beginning.toList chars with
      | some rest =>
          some (first, if long then (afterWord? ending.toList rest).getD rest else rest)
      | none => readName? long (first + 1) names chars

/-- A fraction of a second in nanoseconds; digits beyond the ninth are passed over. -/
def readFraction? (digits : Option Nat) (chars : List Char) : Option (Nat × List Char) :=
  match digits with
  | some count =>
      (takeDigits? count chars).map fun (value, rest) => (value * Nat.pow 10 (9 - count), rest)
  | none => do
      let (value, rest) ← takeNumber? (some 9) chars
      let count := chars.length - rest.length
      some (value * Nat.pow 10 (9 - count), rest.dropWhile Char.isDigit)

/-- The offset of a time zone in seconds: a sign, two digits of hours, colons or blanks, and two
digits of minutes. -/
def readOffset? (zulu shortened : Bool) (chars : List Char) : Option (Int × List Char) :=
  let signed : Int → List Char → Option (Int × List Char) := fun sign rest => do
    let (hours, rest) ← takeDigits? 2 rest
    match rest.dropWhile fun c => c = ':' ∨ Unicode.isBlank c with
    | [] => if shortened then some (sign * (hours * 3600), []) else none
    | rest => do
        let (minutes, rest) ← takeDigits? 2 rest
        if minutes < 60 then some (sign * (hours * 3600 + minutes * 60), rest) else none
  match chars with
  | 'Z' :: rest => if zulu then some (0, rest) else none
  | 'z' :: rest => if zulu then some (0, rest) else none
  | '+' :: rest => signed 1 rest
  | '-' :: rest => signed (-1) rest
  | '\u2212' :: rest => signed (-1) rest
  | _ => none

namespace Directive

/-- Read what a directive stands for; an instant is made of others. -/
def readSimple? (directive : Directive) (progress : Progress) : Option Progress :=
  let (chars, fields) := progress
  match directive with
  | .literal text => if text.isPrefixOf chars then some (chars.drop text.length, fields) else none
  | .blanks => some (dropBlanks chars, fields)
  | .number kind => kind.read? progress
  | .monthName long => do
      let (month, rest) ← readName? long 1 monthNames chars
      (fields.learn? .month month).map (rest, ·)
  | .weekdayName long => do
      let (weekday, rest) ← readName? long 0 weekdayNames chars
      (fields.learn? .weekday weekday).map (rest, ·)
  | .halfDay =>
      match afterWord? ['a', 'm'] chars, afterWord? ['p', 'm'] chars with
      | some rest, _ => (fields.learn? .halfDay 0).map (rest, ·)
      | none, some rest => (fields.learn? .halfDay 1).map (rest, ·)
      | none, none => none
  | .fraction digits =>
      match chars with
      | '.' :: rest => do
          let (value, rest) ← readFraction? digits rest
          (fields.learn? .nanosecond value).map (rest, ·)
      | _ => some progress
  | .bareFraction digits => do
      let (value, rest) ← readFraction? (some digits) chars
      (fields.learn? .nanosecond value).map (rest, ·)
  | .zoneName => some (chars.dropWhile (!Unicode.isBlank ·), fields)
  | .offset shortened => do
      let (value, rest) ← readOffset? shortened shortened (dropBlanks chars)
      (fields.learn? .offset value).map (rest, ·)
  | .instant => none

/-- The parts of an instant before its offset. -/
def dateOfInstant : List Directive :=
  [field .year, .blanks, mark '-', field .month, .blanks, mark '-', field .day]

def timeOfInstant : List Directive :=
  [.number .hour, .blanks, mark ':', field .minute, .blanks, mark ':', field .second,
    .fraction none, .blanks]

/-- Read directives that are no instants. -/
def readSimples? (directives : List Directive) (progress : Progress) : Option Progress :=
  directives.foldlM (fun progress directive => directive.readSimple? progress) progress

/-- Read a date, the letter T or a blank, a time, and an offset or `UTC`. -/
def readInstant? (progress : Progress) : Option Progress := do
  let (chars, fields) ← readSimples? dateOfInstant progress
  let rest ← match chars with
    | c :: rest => if c = 't' ∨ c = 'T' ∨ c = ' ' then some rest else none
    | [] => none
  let (chars, fields) ← readSimples? timeOfInstant (rest, fields)
  let (seconds, rest) ← match afterWord? ['u', 't', 'c'] chars with
    | some rest => some ((0 : Int), rest)
    | none => readOffset? true false chars
  (fields.learn? .offset seconds).map (rest, ·)

def read1? (directive : Directive) (progress : Progress) : Option Progress :=
  match directive with
  | .instant => readInstant? progress
  | _ => directive.readSimple? progress

end Directive

/-- Read a date that is written in a format. -/
def Date.parse? (format text : String) : Option Date := do
  let directives ← Directive.ofFormat? format
  let (rest, fields) ← directives.foldlM (fun progress directive => directive.read1? progress)
    (text.toList, .empty)
  if rest.isEmpty then fields.date? else none

end ThreatModel.Calendar
