import ThreatModel.Unicode.Category
import ThreatModel.Unicode.Properties

/-!
Names inside messages: in double quotes, with an escape for everything that would not show or that
would join the quote before it.
-/

namespace ThreatModel.Chars

/-- The hexadecimal digits of a number, small letters and no leading zero. -/
def hexDigits (value : Nat) : List Char := Nat.toDigits 16 value

/-- How one character stands inside a quoted name. -/
def escapeQuoted (c : Char) : List Char :=
  if c = '\x00' then ['\\', '0']
  else if c = '\t' then ['\\', 't']
  else if c = '\r' then ['\\', 'r']
  else if c = '\n' then ['\\', 'n']
  else if c = '\\' then ['\\', '\\']
  else if c = '"' then ['\\', '"']
  else if 0x20 ≤ c.toNat ∧ c.toNat < 0x7f then [c]
  else if Unicode.graphemeExtenders.contains c.toNat || Unicode.unprintable.contains c.toNat then
    ['\\', 'u', '\x7b'] ++ hexDigits c.toNat ++ ['\x7d']
  else [c]

/-- A name in quotes. -/
def quoted (name : String) : String :=
  .ofList ('"' :: (name.toList.flatMap escapeQuoted ++ ['"']))

end ThreatModel.Chars
