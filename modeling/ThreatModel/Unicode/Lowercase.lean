import ThreatModel.Unicode.LowercaseData

/-!
Full lower-casing. Every letter goes to its lower-case letter, the dotted capital I to two
characters, and a capital sigma to the final form when it ends a word.
-/

namespace ThreatModel.Unicode

/-- Has a case of its own. -/
def isCased (c : Char) : Bool :=
  casedRanges.contains c.toNat

/-- Passed over when a word's end is looked for. -/
def isCaseIgnorable (c : Char) : Bool :=
  caseIgnorableRanges.contains c.toNat

/-- The next character that counts is a cased letter. -/
def leadsToCased (chars : List Char) : Bool :=
  match chars.dropWhile isCaseIgnorable with
  | c :: _ => isCased c
  | [] => false

/-- The lower-case letter of one letter, read by itself. -/
def simpleLower (c : Char) : Char :=
  .ofNat (shiftPoint lowercaseRuns c.toNat)

/-- The lower-case form of `c` between the characters `before` it, nearest first, and `after` it. -/
def lowerIn (before : List Char) (c : Char) (after : List Char) : List Char :=
  if c = 'Σ' then
    if leadsToCased before && !leadsToCased after then ['ς'] else ['σ']
  else if c = 'İ' then ['i', '\u0307']
  else [simpleLower c]

/-- Lower-case `chars`, which follow the characters `before`, nearest first. -/
def lowerAfter (before : List Char) : List Char → List Char
  | [] => []
  | c :: rest => lowerIn before c rest ++ lowerAfter (c :: before) rest

/-- The lower-case form of a text. -/
def lowercase (text : String) : String :=
  .ofList (lowerAfter [] text.toList)

theorem toList_lowercase (text : String) :
    (lowercase text).toList = lowerAfter [] text.toList := by
  simp [lowercase]

end ThreatModel.Unicode
