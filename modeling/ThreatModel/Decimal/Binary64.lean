/-!
Double-precision numbers as a sign, a significand and a power of two. All arithmetic is exact
arithmetic on natural numbers followed by one rounding to the nearest double, ties to even.
-/

namespace ThreatModel.Decimal

/-- The finite number `± significand * 2 ^ exponent`. The significand has 53 bits, or fewer at the
least exponent -1074. -/
structure Binary64 where
  negative : Bool
  significand : Nat
  exponent : Int
deriving DecidableEq, Repr

/-- The quotient rounded to the nearest integer, a half to the even neighbour. -/
def roundDiv (numerator denominator : Nat) : Nat :=
  let quotient := numerator / denominator
  let remainder := numerator % denominator
  if 2 * remainder > denominator ∨ (2 * remainder = denominator ∧ quotient % 2 = 1) then
    quotient + 1
  else quotient

/-- The fraction divided by `2 ^ exponent`. -/
def scaleDown (numerator denominator : Nat) : Int → Nat × Nat
  | .ofNat exponent => (numerator, denominator * Nat.pow 2 exponent)
  | .negSucc exponent => (numerator * Nat.pow 2 (exponent + 1), denominator)

namespace Binary64

/-- Zero with a sign. -/
def zero (negative : Bool) : Binary64 := ⟨negative, 0, -1074⟩

/-- The double nearest to a fraction; none when it is too large. -/
def ofRatio? (negative : Bool) (numerator denominator : Nat) : Option Binary64 :=
  if numerator = 0 then some (zero negative)
  else
    let least : Int := max ((numerator.log2 : Int) - denominator.log2 - 53) (-1074)
    let wide := scaleDown numerator denominator least
    let exponent := if wide.1 / wide.2 ≥ Nat.pow 2 53 then least + 1 else least
    let exact := scaleDown numerator denominator exponent
    let significand := roundDiv exact.1 exact.2
    let carried := significand = Nat.pow 2 53
    let exponent := if carried then exponent + 1 else exponent
    if exponent > 971 then none
    else some ⟨negative, if carried then Nat.pow 2 52 else significand, exponent⟩

/-- The double nearest to a natural number; none when it is too large. -/
def ofNat? (value : Nat) : Option Binary64 := ofRatio? false value 1

/-- The rounded product of magnitudes; none when it is too large. -/
def scaleUp? (value factor : Binary64) : Option Binary64 :=
  let parts := scaleDown (value.significand * factor.significand) 1
    (-(value.exponent + factor.exponent))
  ofRatio? value.negative parts.1 parts.2

/-- The rounded quotient of magnitudes; none when it is too large. -/
def quotient? (value divisor : Binary64) : Option Binary64 :=
  let parts := scaleDown value.significand divisor.significand
    (divisor.exponent - value.exponent)
  ofRatio? value.negative parts.1 parts.2

/-- The number of opposite sign. -/
def negate (value : Binary64) : Binary64 := { value with negative := !value.negative }

/-- A significand times a power of ten, in at most one multiplication or division by a double for
every 308 places. None when it is too large. -/
def ofDecimal? (significand : Nat) (exponent : Int) : Option Binary64 :=
  match ofNat? significand with
  | none => none
  | some value =>
      match exponent with
      | .ofNat up =>
          if up ≤ 308 then
            (ofNat? (Nat.pow 10 up)).bind value.scaleUp?
          else if significand = 0 then some value
          else none
      | .negSucc down => shrink value ((down + 1) / 308) (down + 1)
where
  /-- Divide by `10 ^ places`, by `10 ^ 308` at a time; zero stays. -/
  shrink (value : Binary64) : Nat → Nat → Option Binary64
    | rounds, places =>
        if places ≤ 308 then (ofNat? (Nat.pow 10 places)).bind value.quotient?
        else if value.significand = 0 then some value
        else match rounds with
          | 0 => some value
          | rounds + 1 =>
              ((ofNat? (Nat.pow 10 308)).bind value.quotient?).bind (shrink · rounds (places - 308))

end Binary64

end ThreatModel.Decimal
