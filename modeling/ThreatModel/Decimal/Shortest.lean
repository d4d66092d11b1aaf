import ThreatModel.Decimal.Binary64

/-!
The fewest decimal digits that read back as the same double, and among these the nearest. For one,
two, up to seventeen digits the two neighbours of the number on the decimal grid are compared with
the interval of numbers that round to it.
-/

namespace ThreatModel.Decimal

/-- The decimal `digits * 10 ^ exponent`. -/
structure Scientific where
  digits : Nat
  exponent : Int
deriving DecidableEq, Repr

/-- The number of decimal digits; zero has none. -/
def digitCount (value : Nat) : Nat :=
  if value = 0 then 0 else (Nat.toDigits 10 value).length

/-- The power of ten of the leading digit of a positive fraction. -/
def leadingPlace (numerator denominator : Nat) : Int :=
  if numerator ≥ denominator then (digitCount (numerator / denominator) : Int) - 1
  else -(digitCount ((denominator - 1) / numerator) : Int)

/-- The fraction in units of `10 ^ place`. -/
def inUnits (numerator denominator : Nat) : Int → Nat × Nat
  | .ofNat place => (numerator, denominator * Nat.pow 10 place)
  | .negSucc place => (numerator * Nat.pow 10 (place + 1), denominator)

/-- A positive double with the bounds of the numbers that round to it, over one denominator. -/
structure Interval where
  low : Nat
  value : Nat
  high : Nat
  denominator : Nat
  /-- The bounds themselves round to the double. -/
  closed : Bool

/-- The numbers that round to `significand * 2 ^ exponent`. Below a power of two the doubles lie
twice as close. -/
def Interval.around (significand : Nat) (exponent : Int) : Interval :=
  let gapBelow := if significand = Nat.pow 2 52 ∧ exponent > -1074 then 1 else 2
  let scale := scaleDown 1 1 (2 - exponent)
  ⟨(4 * significand - gapBelow) * scale.1, 4 * significand * scale.1,
    (4 * significand + 2) * scale.1, scale.2, significand % 2 == 0⟩

/-- `candidate * 10 ^ place` lies in the interval. -/
def Interval.holds (interval : Interval) (place : Int) (candidate : Nat) : Bool :=
  let low := inUnits interval.low interval.denominator place
  let high := inUnits interval.high interval.denominator place
  if interval.closed then low.1 ≤ candidate * low.2 && candidate * high.2 ≤ high.1
  else low.1 < candidate * low.2 && candidate * high.2 < high.1

/-- The nearer of the two neighbours of the double on a decimal grid, of those in the interval. -/
def Interval.onGrid? (interval : Interval) (place : Int) : Option Nat :=
  let units := inUnits interval.value interval.denominator place
  let below := units.1 / units.2
  let above := below + 1
  match interval.holds place below, interval.holds place above with
  | true, true =>
      let remainder := units.1 % units.2
      if 2 * remainder < units.2 ∨ (2 * remainder = units.2 ∧ below % 2 = 0) then some below
      else some above
  | true, false => some below
  | false, true => some above
  | false, false => none

/-- Powers of ten moved from the digits to the exponent. -/
def Scientific.strip (number : Scientific) : Scientific :=
  go (digitCount number.digits) number
where
  go : Nat → Scientific → Scientific
    | 0, number => number
    | fuel + 1, number =>
        if number.digits % 10 = 0 then go fuel ⟨number.digits / 10, number.exponent + 1⟩
        else number

/-- The shortest decimal of a positive double. -/
def shortest (significand : Nat) (exponent : Int) : Scientific :=
  let interval := Interval.around significand exponent
  let leading := leadingPlace interval.value interval.denominator
  let tries := (List.range 17).findSome? fun (extra : Nat) =>
    (interval.onGrid? (leading - extra)).map fun digits =>
      Scientific.strip ⟨digits, leading - extra⟩
  tries.getD ⟨significand, 0⟩

end ThreatModel.Decimal
