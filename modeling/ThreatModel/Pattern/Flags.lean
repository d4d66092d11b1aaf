import ThreatModel.Pattern.CharSet

/-!
The flags of a pattern: what a letter set in the pattern changes, and how sets are closed and
admitted under the flags that hold.
-/

namespace ThreatModel.Pattern

structure Flags where
  ignoreCase : Bool
  multiLine : Bool
  dotAll : Bool
  swapGreed : Bool
  unicode : Bool
  verbose : Bool
  anyLineBreak : Bool

namespace Flags

def initial : Flags := ⟨false, false, false, false, true, false, false⟩

/-- Set or clear the flag of a letter. -/
def put? (flags : Flags) (letter : Char) (on : Bool) : Option Flags :=
  match letter with
  | 'i' => some { flags with ignoreCase := on }
  | 'm' => some { flags with multiLine := on }
  | 's' => some { flags with dotAll := on }
  | 'U' => some { flags with swapGreed := on }
  | 'u' => some { flags with unicode := on }
  | 'x' => some { flags with verbose := on }
  | 'R' => some { flags with anyLineBreak := on }
  | _ => none

/-- The greatest code point that sets range over: outside Unicode mode, the greatest byte. -/
def lastMember (flags : Flags) : Nat := if flags.unicode then lastPoint else 0xff

/-- A set closed under case where case is ignored, then negated where asked. -/
def close (flags : Flags) (negated : Bool) (set : CharSet) : CharSet :=
  let closed := if flags.ignoreCase then .folded (!flags.unicode) set else set
  if negated then .complement flags.lastMember closed else closed

/-- A set as it may stand in a pattern: outside Unicode mode it holds ASCII only. -/
def admit? (flags : Flags) (set : CharSet) : Option CharSet :=
  if flags.unicode then some set
  else if (List.range 0x80).any fun offset => set.contains (0x80 + offset) then none
  else some set

end Flags

/-- Blanks and comments, which mean nothing in verbose mode. -/
def skipVerbose : List Char → List Char
  | [] => []
  | c :: rest =>
      if Unicode.isBlank c then skipVerbose rest
      else if c = '#' then skipComment rest
      else c :: rest
where
  /-- A comment ends with its line. -/
  skipComment : List Char → List Char
    | [] => []
    | c :: rest => if c = '\n' then skipVerbose rest else skipComment rest

/-- The rest of a pattern, without what means nothing under the flags. -/
def Flags.skip (flags : Flags) (chars : List Char) : List Char :=
  if flags.verbose then skipVerbose chars else chars

end ThreatModel.Pattern
