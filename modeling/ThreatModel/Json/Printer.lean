import ThreatModel.Json.Value
import ThreatModel.Decimal.Shortest

/-!
The written form of JSON: one line without blanks, or indented by two blanks a level. Both escape
the quote, the backslash and the controls below the blank, and nothing else.
-/

namespace ThreatModel

open Decimal (Binary64)

/-- The decimal digits of a natural number. -/
def digitsOf (value : Nat) : List Char := Nat.toDigits 10 value

/-- A decimal between 1e-5 and 1e16 is written out, with a digit after the point; beyond, as one
digit, a fraction and a signed exponent. -/
def Decimal.Scientific.write (number : Decimal.Scientific) : List Char :=
  let digits := digitsOf number.digits
  let leading := number.exponent + (digits.length : Int) - 1
  if -5 ≤ leading ∧ leading < 16 then
    if number.exponent ≥ 0 then
      digits ++ List.replicate number.exponent.toNat '0' ++ ['.', '0']
    else if leading ≥ 0 then
      digits.take (leading.toNat + 1) ++ '.' :: digits.drop (leading.toNat + 1)
    else
      '0' :: '.' :: (List.replicate (-leading - 1).toNat '0' ++ digits)
  else
    let fraction := match digits with
      | [] => []
      | [digit] => [digit]
      | digit :: rest => digit :: '.' :: rest
    let sign := if leading < 0 then '-' else '+'
    fraction ++ 'e' :: sign :: digitsOf leading.natAbs

/-- The text of a double: the fewest digits that read back. -/
def Decimal.Binary64.write (value : Binary64) : List Char :=
  let magnitude :=
    if value.significand = 0 then ['0', '.', '0']
    else (Decimal.shortest value.significand value.exponent).write
  if value.negative then '-' :: magnitude else magnitude

/-- The text of a number. -/
def Number.write : Number → String
  | .integer (.ofNat value) => .ofList (digitsOf value)
  | .integer (.negSucc value) => .ofList ('-' :: digitsOf (value + 1))
  | .real value => .ofList value.write

namespace Json

/-- The hexadecimal digit of a value below sixteen. -/
def hexDigit (value : Nat) : Char :=
  if value < 10 then .ofNat ('0'.toNat + value) else .ofNat ('a'.toNat + value - 10)

/-- How one character stands inside a JSON string. -/
def escapeChar (c : Char) : List Char :=
  if c = '"' then ['\\', '"']
  else if c = '\\' then ['\\', '\\']
  else if c = '\n' then ['\\', 'n']
  else if c = '\r' then ['\\', 'r']
  else if c = '\t' then ['\\', 't']
  else if c = '\x08' then ['\\', 'b']
  else if c = '\x0c' then ['\\', 'f']
  else if c.toNat < 0x20 then
    ['\\', 'u', '0', '0', hexDigit (c.toNat / 16), hexDigit (c.toNat % 16)]
  else [c]

/-- A string in quotes. -/
def quote (value : String) : String :=
  .ofList ('"' :: (value.toList.flatMap escapeChar ++ ['"']))

mutual

/-- The value on one line. -/
def compress : Json → String
  | .null => "null"
  | .bool true => "true"
  | .bool false => "false"
  | .number value => value.write
  | .string value => quote value
  | .array items => "[" ++ compressItems true items ++ "]"
  | .object members => "\x7b" ++ compressMembers true members ++ "\x7d"

/-- Array items; all but the first follow a comma. -/
def compressItems (first : Bool) : List Json → String
  | [] => ""
  | item :: rest => (if first then "" else ",") ++ compress item ++ compressItems false rest

/-- Object members; all but the first follow a comma. -/
def compressMembers (first : Bool) : List (String × Json) → String
  | [] => ""
  | (name, value) :: rest =>
      (if first then "" else ",") ++ quote name ++ ":" ++ compress value ++
        compressMembers false rest

end

/-- A new line at a level of indentation. -/
def newLine (level : Nat) : String :=
  .ofList ('\n' :: List.replicate (2 * level) ' ')

mutual

/-- The value over several lines, standing at a level of indentation. -/
def indent (level : Nat) : Json → String
  | .null => "null"
  | .bool true => "true"
  | .bool false => "false"
  | .number value => value.write
  | .string value => quote value
  | .array [] => "[]"
  | .array items => "[" ++ indentItems (level + 1) true items ++ newLine level ++ "]"
  | .object [] => "\x7b\x7d"
  | .object members =>
      "\x7b" ++ indentMembers (level + 1) true members ++ newLine level ++ "\x7d"

/-- Array items, each on its own line. -/
def indentItems (level : Nat) (first : Bool) : List Json → String
  | [] => ""
  | item :: rest =>
      (if first then "" else ",") ++ newLine level ++ indent level item ++
        indentItems level false rest

/-- Object members, each on its own line. -/
def indentMembers (level : Nat) (first : Bool) : List (String × Json) → String
  | [] => ""
  | (name, value) :: rest =>
      (if first then "" else ",") ++ newLine level ++ quote name ++ ": " ++ indent level value ++
        indentMembers level false rest

end

/-- The written form, on one line or indented. -/
def render (value : Json) (pretty : Bool) : String :=
  if pretty then value.indent 0 else value.compress

end Json

end ThreatModel
