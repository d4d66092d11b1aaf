import ThreatModel.Unicode.Ranges

/-!
Percent-decoding. A percent sign with two hexadecimal digits stands for a byte, and the bytes are
read as UTF-8; what is not UTF-8 becomes a replacement character, one for the longest beginning of a
sequence that could have gone on.
-/

namespace ThreatModel.Chars

def isHexDigit (byte : Nat) : Bool :=
  (0x30 ≤ byte && byte ≤ 0x39) || (0x41 ≤ byte && byte ≤ 0x46) || (0x61 ≤ byte && byte ≤ 0x66)

/-- The bytes with percent escapes replaced. -/
def percentDecode : List Nat → List Nat
  | 0x25 :: high :: low :: rest =>
      if isHexDigit high && isHexDigit low then
        Unicode.hexNumber [.ofNat high, .ofNat low] :: percentDecode rest
      else 0x25 :: percentDecode (high :: low :: rest)
  | byte :: rest => byte :: percentDecode rest
  | [] => []

/-- The least and greatest second byte after a first byte, and how many bytes follow the first. -/
def sequenceShape? (first : Nat) : Option (Nat × Nat × Nat) :=
  if 0xc2 ≤ first ∧ first ≤ 0xdf then some (0x80, 0xbf, 1)
  else if first = 0xe0 then some (0xa0, 0xbf, 2)
  else if first = 0xed then some (0x80, 0x9f, 2)
  else if 0xe1 ≤ first ∧ first ≤ 0xef then some (0x80, 0xbf, 2)
  else if first = 0xf0 then some (0x90, 0xbf, 3)
  else if 0xf1 ≤ first ∧ first ≤ 0xf3 then some (0x80, 0xbf, 3)
  else if first = 0xf4 then some (0x80, 0x8f, 3)
  else none

/-- Take up to `count` bytes, the first between `low` and `high` and the others continuing. -/
def takeContinuation (low high : Nat) : Nat → List Nat → List Nat
  | count + 1, byte :: rest =>
      if low ≤ byte ∧ byte ≤ high then byte :: takeContinuation 0x80 0xbf count rest else []
  | _, _ => []

/-- The bits of continuing bytes put after those of a first byte. -/
def joinBits (first : Nat) (continuing : List Nat) : Nat :=
  continuing.foldl (fun value byte => value * 64 + byte % 64) first

/-- The replacement character. -/
def replacement : Char := '\ufffd'

/-- The characters of bytes; `fuel` bounds their number. -/
def decodeBytes : Nat → List Nat → List Char
  | 0, _ => []
  | _, [] => []
  | fuel + 1, first :: rest =>
      if first < 0x80 then .ofNat first :: decodeBytes fuel rest
      else
        match sequenceShape? first with
        | none => replacement :: decodeBytes fuel rest
        | some (low, high, count) =>
            let continuing := takeContinuation low high count rest
            let after := rest.drop continuing.length
            if continuing.length = count then
              .ofNat (joinBits (first % Nat.pow 2 (6 - count)) continuing) :: decodeBytes fuel after
            else replacement :: decodeBytes fuel after

/-- The text with percent escapes decoded. In a form, a plus sign stands for a blank. -/
def urlDecode (form : Bool) (text : String) : String :=
  let chars := if form then text.toList.map fun c => if c = '+' then ' ' else c else text.toList
  let bytes := percentDecode ((String.ofList chars).toUTF8.toList.map (·.toNat))
  .ofList (decodeBytes (bytes.length + 1) bytes)

end ThreatModel.Chars
