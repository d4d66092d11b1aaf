/-!
Sets of code points as ranges, and case relations as runs of letters that move by one distance. The tables
that are written in these forms hold the characters of Unicode 15.0.
-/

namespace ThreatModel.Unicode

/-- Closed ranges of code points, increasing and disjoint. -/
abbrev Ranges := List (Nat × Nat)

/-- The ranges increase, so the search ends at the first that begins above `point`. -/
def Ranges.contains : Ranges → Nat → Bool
  | [], _ => false
  | (low, high) :: rest, point =>
      if point < low then false else point ≤ high || contains rest point

/-- The value of a hexadecimal digit; other characters count as zero. -/
def hexValue (digit : Char) : Nat :=
  if '0' ≤ digit ∧ digit ≤ '9' then digit.toNat - '0'.toNat
  else if 'a' ≤ digit ∧ digit ≤ 'f' then digit.toNat - 'a'.toNat + 10
  else if 'A' ≤ digit ∧ digit ≤ 'F' then digit.toNat - 'A'.toNat + 10
  else 0

/-- The number that hexadecimal digits write. -/
def hexNumber (digits : List Char) : Nat :=
  digits.foldl (fun value digit => value * 16 + hexValue digit) 0

/-- The blank-separated words of a table, line by line. -/
def tableWords (table : List String) : List (List Char) :=
  table.flatMap (·.toList.splitOn ' ')

/-- Ranges from alternating numbers: how many code points are skipped, how many are in the set. -/
def Ranges.ofLengths (start : Nat) : List Nat → Ranges
  | skipped :: taken :: rest =>
      (start + skipped, start + skipped + taken - 1) :: ofLengths (start + skipped + taken) rest
  | _ => []

/-- Ranges from a table of hexadecimal numbers, skipped and taken in turn. -/
def Ranges.ofGaps (table : List String) : Ranges :=
  .ofLengths 0 ((tableWords table).map hexNumber)

/-- Letters from `first` to `last` in steps of `step`, each of which moves by `shift`. -/
structure ShiftRun where
  first : Nat
  last : Nat
  step : Nat
  shift : Int
deriving Repr

/-- The run moves `point`. -/
def ShiftRun.moves (run : ShiftRun) (point : Nat) : Bool :=
  run.first ≤ point && point ≤ run.last && (point - run.first) % run.step == 0

/-- `point` moved by the first run that moves it; other code points stay. -/
def shiftPoint (runs : List ShiftRun) (point : Nat) : Nat :=
  match runs.find? (·.moves point) with
  | some run => (point + run.shift).toNat
  | none => point

end ThreatModel.Unicode
