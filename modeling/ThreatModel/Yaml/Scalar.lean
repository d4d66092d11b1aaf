import ThreatModel.Decimal.Binary64
import ThreatModel.Json.Value
import ThreatModel.Unicode.Ranges

/-!
What a plain scalar looks like: null, a truth value, an integer, a fraction, or else text. An
integer with a leading zero is text.
-/

namespace ThreatModel.Yaml

/-- The value of a digit of a base up to sixteen. -/
def digitOf? (base : Nat) (c : Char) : Option Nat :=
  if c.isDigit || ('a' ≤ c && c ≤ 'f') || ('A' ≤ c && c ≤ 'F') then
    let value := Unicode.hexValue c
    if value < base then some value else none
  else none

/-- The number that digits of a base are; there is at least one. -/
def natOf? (base : Nat) (digits : List Char) : Option Nat :=
  if digits.isEmpty then none
  else digits.foldlM (fun value c => (digitOf? base c).map (value * base + ·)) 0

/-- A magnitude with or without the mark of a base. -/
def magnitudeOf? : List Char → Option Nat
  | '0' :: 'x' :: digits => natOf? 16 digits
  | '0' :: 'o' :: digits => natOf? 8 digits
  | '0' :: 'b' :: digits => natOf? 2 digits
  | '0' :: digit :: rest =>
      if (digit :: rest).all Char.isDigit then none else natOf? 10 ('0' :: digit :: rest)
  | digits => natOf? 10 digits

/-- An integer that 64 bits hold. -/
def integerOf? (chars : List Char) : Option Int :=
  match chars with
  | '-' :: digits =>
      (magnitudeOf? digits).bind fun value =>
        if value ≤ Nat.pow 2 63 then some (-(value : Int)) else none
  | '+' :: digits =>
      (magnitudeOf? digits).bind fun value =>
        if value < Nat.pow 2 64 then some (value : Int) else none
  | digits =>
      (magnitudeOf? digits).bind fun value =>
        if value < Nat.pow 2 64 then some (value : Int) else none

/-- A signed decimal number. -/
def exponentOf? : List Char → Option Int
  | '-' :: digits => (natOf? 10 digits).map fun value => -(value : Int)
  | '+' :: digits => (natOf? 10 digits).map fun value => (value : Int)
  | digits => (natOf? 10 digits).map fun value => (value : Int)

/-- The double nearest to a decimal number; none when it is too large. -/
def decimalOf? (negative : Bool) (digits : Nat) (exponent : Int) : Option Decimal.Binary64 :=
  let size : Int := (Nat.toDigits 10 digits).length
  if digits = 0 ∨ exponent + size < -400 then some (.zero negative)
  else if 400 < exponent + size then none
  else
    match exponent with
    | .ofNat up => Decimal.Binary64.ofRatio? negative (digits * Nat.pow 10 up) 1
    | .negSucc down => Decimal.Binary64.ofRatio? negative digits (Nat.pow 10 (down + 1))

/-- A fraction without its sign: digits around a point, and an exponent if there is one. -/
def fractionOf? (negative : Bool) (chars : List Char) : Option Decimal.Binary64 := do
  let whole := chars.takeWhile Char.isDigit
  let (part, rest) := match chars.dropWhile Char.isDigit with
    | '.' :: rest => (rest.takeWhile Char.isDigit, rest.dropWhile Char.isDigit)
    | rest => ([], rest)
  let exponent ← match rest with
    | [] => some 0
    | mark :: rest => if mark = 'e' ∨ mark = 'E' then exponentOf? rest else none
  let digits ← natOf? 10 (whole ++ part)
  decimalOf? negative digits (exponent - part.length)

/-- A number with its sign, as a fraction. Leading zeros of nothing but digits make no number. -/
def realOf? (chars : List Char) : Option Decimal.Binary64 :=
  let (negative, magnitude) := match chars with
    | '-' :: rest => (true, rest)
    | '+' :: rest => (false, rest)
    | rest => (false, rest)
  if magnitude.head? = some '0' ∧ 1 < magnitude.length ∧ magnitude.all Char.isDigit then none
  else fractionOf? negative magnitude

/-- The words that stand for null. -/
def nullWords : List String := ["", "~", "null", "Null", "NULL"]

/-- The words that stand for numbers that are not finite, which are written as null. -/
def unboundedWords : List String :=
  [".inf", ".Inf", ".INF", "+.inf", "+.Inf", "+.INF", "-.inf", "-.Inf", "-.INF", ".nan", ".NaN",
    ".NAN"]

/-- The value that a plain scalar looks like. -/
def looksLike (text : String) : Json :=
  if nullWords.contains text || unboundedWords.contains text then .null
  else if ["true", "True", "TRUE"].contains text then .bool true
  else if ["false", "False", "FALSE"].contains text then .bool false
  else
    match integerOf? text.toList with
    | some value => .number (.integer value)
    | none =>
        match realOf? text.toList with
        | some value => .number (.real value)
        | none => .string text

end ThreatModel.Yaml
