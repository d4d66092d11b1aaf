import ThreatModel.Json.Value
import ThreatModel.Unicode.Ranges

/-!
Reading JSON text. A repeated member keeps its first place and takes its last value, numbers keep
64 bits of integer or become doubles, and containers may nest 127 deep.
-/

namespace ThreatModel.Json

/-- Blanks between the parts of a text. -/
def skipBlanks (chars : List Char) : List Char :=
  chars.dropWhile fun c => c = ' ' ∨ c = '\n' ∨ c = '\r' ∨ c = '\t'

/-- The rest of a text that begins with a word. -/
def afterWord? : List Char → List Char → Option (List Char)
  | [], chars => some chars
  | expected :: word, c :: chars => if expected = c then afterWord? word chars else none
  | _ :: _, [] => none

/-- Four hexadecimal digits. -/
def readHex4 : List Char → Option (Nat × List Char)
  | a :: b :: c :: d :: rest =>
      let digits := [a, b, c, d]
      if digits.all fun digit => digit.isDigit || ('a' ≤ digit && digit ≤ 'f') ||
          ('A' ≤ digit && digit ≤ 'F') then
        some (Unicode.hexNumber digits, rest)
      else none
  | _ => none

/-- The character of an escape, after the backslash. Halves of a surrogate pair stand together. -/
def readEscape : List Char → Option (Char × List Char)
  | '"' :: rest => some ('"', rest)
  | '\\' :: rest => some ('\\', rest)
  | '/' :: rest => some ('/', rest)
  | 'b' :: rest => some ('\x08', rest)
  | 'f' :: rest => some ('\x0c', rest)
  | 'n' :: rest => some ('\n', rest)
  | 'r' :: rest => some ('\r', rest)
  | 't' :: rest => some ('\t', rest)
  | 'u' :: rest => do
      let (unit, rest) ← readHex4 rest
      if 0xd800 ≤ unit ∧ unit < 0xdc00 then
        match rest with
        | '\\' :: 'u' :: rest => do
            let (low, rest) ← readHex4 rest
            if 0xdc00 ≤ low ∧ low < 0xe000 then
              some (.ofNat (0x10000 + (unit - 0xd800) * 0x400 + (low - 0xdc00)), rest)
            else none
        | _ => none
      else if 0xdc00 ≤ unit ∧ unit < 0xe000 then none
      else some (.ofNat unit, rest)
  | _ => none

/-- A string after its opening quote; `done` holds what was read, last first. -/
def readString : Nat → List Char → List Char → Option (String × List Char)
  | 0, _, _ => none
  | _ + 1, _, [] => none
  | fuel + 1, done, c :: rest =>
      if c = '"' then some (.ofList done.reverse, rest)
      else if c = '\\' then do
        let (escaped, rest) ← readEscape rest
        readString fuel (escaped :: done) rest
      else if c.toNat < 0x20 then none
      else readString fuel (c :: done) rest

/-- The largest integer of 64 bits. -/
def maxInteger : Nat := Nat.pow 2 64 - 1

/-- Digits taken as long as the number fits 64 bits; with how many were taken and what follows. -/
def takeDigits (value taken : Nat) : List Char → Nat × Nat × List Char
  | [] => (value, taken, [])
  | c :: rest =>
      if c.isDigit then
        let next := value * 10 + (c.toNat - '0'.toNat)
        if next ≤ maxInteger then takeDigits next (taken + 1) rest
        else (value, taken, c :: rest)
      else (value, taken, c :: rest)

/-- A number from its significand and its power of ten, with the sign. -/
def realNumber (negative : Bool) (significand : Nat) (exponent : Int) : Option Number :=
  (Decimal.Binary64.ofDecimal? significand exponent).map fun value =>
    .real (if negative then value.negate else value)

/-- The rest of a number from its exponent mark on, if it has one. -/
def readExponent (negative : Bool) (significand : Nat) (exponent : Int) (chars : List Char) :
    Option (Number × List Char) :=
  match chars with
  | c :: rest =>
      if c = 'e' ∨ c = 'E' then
        let (below, rest) := match rest with
          | '-' :: rest => (true, rest)
          | '+' :: rest => (false, rest)
          | _ => (false, rest)
        let digits := rest.takeWhile (·.isDigit)
        if digits.isEmpty then none
        else
          let rest := rest.dropWhile (·.isDigit)
          let size := digits.foldl (fun value digit => value * 10 + (digit.toNat - '0'.toNat)) 0
          if size > Nat.pow 2 31 - 1 then
            if significand ≠ 0 ∧ ¬ below then none
            else some (.real (.zero negative), rest)
          else
            let exponent := if below then exponent - size else exponent + size
            (realNumber negative significand exponent).map (·, rest)
      else (realNumber negative significand exponent).map (·, chars)
  | [] => (realNumber negative significand exponent).map (·, [])

/-- The rest of a number after digits that `significand` holds as far as they fit 64 bits; `dropped`
counts the digits before the point that do not. -/
def readFraction (negative : Bool) (significand dropped : Nat) (chars : List Char) :
    Option (Number × List Char) :=
  match chars with
  | '.' :: rest =>
      if dropped = 0 then
        let (significand, taken, after) := takeDigits significand 0 rest
        if (rest.takeWhile (·.isDigit)).isEmpty then none
        else readExponent negative significand (-(taken : Int)) (after.dropWhile (·.isDigit))
      else if (rest.takeWhile (·.isDigit)).isEmpty then none
      else readExponent negative significand dropped (rest.dropWhile (·.isDigit))
  | _ => readExponent negative significand dropped chars

/-- A number without its sign. -/
def readMagnitude (negative : Bool) (chars : List Char) : Option (Number × List Char) :=
  let leadingZero : Bool := match chars with
    | '0' :: c :: _ => c.isDigit
    | _ => false
  if leadingZero || (chars.takeWhile (·.isDigit)).isEmpty then none
  else
    let (significand, _, after) := takeDigits 0 0 chars
    let dropped := (after.takeWhile (·.isDigit)).length
    let rest := after.dropWhile (·.isDigit)
    let whole : Bool := match rest with
      | c :: _ => !(c == '.' || c == 'e' || c == 'E')
      | [] => true
    if whole && dropped == 0 then
      if ¬ negative then some (.integer significand, rest)
      else if significand ≠ 0 ∧ significand ≤ Nat.pow 2 63 then
        some (.integer (-(significand : Int)), rest)
      else (realNumber true significand 0).map (·, rest)
    else readFraction negative significand dropped rest

mutual

/-- A value at the front of a text, with `depth` containers still allowed. -/
def readValue : Nat → Nat → List Char → Option (Json × List Char)
  | 0, _, _ => none
  | fuel + 1, depth, chars =>
      match skipBlanks chars with
      | [] => none
      | '"' :: rest =>
          (readString (rest.length + 1) [] rest).map fun (value, rest) => (.string value, rest)
      | '[' :: rest =>
          match depth with
          | 0 => none
          | depth + 1 =>
              match skipBlanks rest with
              | ']' :: rest => some (.array [], rest)
              | rest => (readItems fuel depth rest).map fun (items, rest) => (.array items, rest)
      | '\x7b' :: rest =>
          match depth with
          | 0 => none
          | depth + 1 =>
              match skipBlanks rest with
              | '\x7d' :: rest => some (.object [], rest)
              | rest =>
                  (readMembers fuel depth [] rest).map fun (members, rest) =>
                    (.object members, rest)
      | '-' :: rest => (readMagnitude true rest).map fun (value, rest) => (.number value, rest)
      | c :: rest =>
          if c.isDigit then
            (readMagnitude false (c :: rest)).map fun (value, rest) => (.number value, rest)
          else if c = 'n' then (afterWord? ['u', 'l', 'l'] rest).map (.null, ·)
          else if c = 't' then (afterWord? ['r', 'u', 'e'] rest).map (.bool true, ·)
          else if c = 'f' then (afterWord? ['a', 'l', 's', 'e'] rest).map (.bool false, ·)
          else none

/-- The items of an array up to its closing bracket. -/
def readItems : Nat → Nat → List Char → Option (List Json × List Char)
  | 0, _, _ => none
  | fuel + 1, depth, chars => do
      let (item, rest) ← readValue fuel depth chars
      match skipBlanks rest with
      | ',' :: rest => do
          let (items, rest) ← readItems fuel depth rest
          some (item :: items, rest)
      | ']' :: rest => some ([item], rest)
      | _ => none

/-- The members of an object up to its closing brace, put after those that were read. -/
def readMembers : Nat → Nat → List (String × Json) → List Char →
    Option (List (String × Json) × List Char)
  | 0, _, _, _ => none
  | fuel + 1, depth, done, chars =>
      match skipBlanks chars with
      | '"' :: rest => do
          let (name, rest) ← readString (rest.length + 1) [] rest
          match skipBlanks rest with
          | ':' :: rest => do
              let (value, rest) ← readValue fuel depth rest
              let done := putMember done name value
              match skipBlanks rest with
              | ',' :: rest => readMembers fuel depth done rest
              | '\x7d' :: rest => some (done, rest)
              | _ => none
          | _ => none
      | _ => none

end

/-- The deepest nesting of containers. -/
def maxDepth : Nat := 127

/-- The value that a whole text holds, blanks around it apart. -/
def parse? (text : String) : Option Json :=
  let chars := text.toList
  match readValue (chars.length + 1) maxDepth chars with
  | some (value, rest) => if (skipBlanks rest).isEmpty then some value else none
  | none => none

end ThreatModel.Json
