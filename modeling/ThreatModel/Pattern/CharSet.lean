import ThreatModel.Unicode.Blank
import ThreatModel.Unicode.Folding
import ThreatModel.Unicode.Properties
import ThreatModel.Unicode.Script

/-!
Sets of characters in patterns. A set is kept as it was put together, and membership is decided from
the parts (`contains`).
-/

namespace ThreatModel.Pattern

open Unicode (Ranges)

inductive CharSet
  | ranges (ranges : Ranges)
  | union (left right : CharSet)
  | intersection (left right : CharSet)
  | difference (left right : CharSet)
  | symmetricDifference (left right : CharSet)
  /-- The code points up to `last` that are not in the set. -/
  | complement (last : Nat) (set : CharSet)
  /-- All case variants of the members; of ASCII letters only when `ascii`. -/
  | folded (ascii : Bool) (set : CharSet)
deriving Inhabited

/-- The greatest code point. -/
def lastPoint : Nat := 0x10ffff

/-- The other case of an ASCII letter. -/
def asciiVariants (point : Nat) : List Nat :=
  if 0x41 ≤ point ∧ point ≤ 0x5a then [point, point + 0x20]
  else if 0x61 ≤ point ∧ point ≤ 0x7a then [point, point - 0x20]
  else [point]

namespace CharSet

def contains : CharSet → Nat → Bool
  | .ranges members, point => members.contains point
  | .union left right, point => left.contains point || right.contains point
  | .intersection left right, point => left.contains point && right.contains point
  | .difference left right, point => left.contains point && !right.contains point
  | .symmetricDifference left right, point => left.contains point != right.contains point
  | .complement last set, point => point ≤ last && !set.contains point
  | .folded ascii set, point =>
      set.contains point ||
        (if ascii then asciiVariants point else Unicode.caseVariants point).any set.contains

/-- How many ranges the set is put together from. -/
def rangeCount : CharSet → Nat
  | .ranges members => members.length
  | .union left right => left.rangeCount + right.rangeCount
  | .intersection left right => left.rangeCount + right.rangeCount
  | .difference left right => left.rangeCount + right.rangeCount
  | .symmetricDifference left right => left.rangeCount + right.rangeCount
  | .complement _ set => set.rangeCount + 1
  | .folded _ set => 2 * set.rangeCount

/-- No member. -/
def empty : CharSet := .ranges []

/-- One code point. -/
def single (point : Nat) : CharSet := .ranges [(point, point)]

/-- The variants of one code point, as ranges. -/
def variants (ascii : Bool) (point : Nat) : CharSet :=
  let points := if ascii then asciiVariants point else Unicode.caseVariants point
  .ranges ((points.mergeSort (· ≤ ·)).map fun variant => (variant, variant))

def whiteSpace : CharSet :=
  .ranges [(0x09, 0x0d), (0x20, 0x20), (0x85, 0x85), (0xa0, 0xa0), (0x1680, 0x1680),
    (0x2000, 0x200a), (0x2028, 0x2029), (0x202f, 0x202f), (0x205f, 0x205f), (0x3000, 0x3000)]

/-- Letters, marks, digits and the characters that join words. -/
def word : CharSet :=
  .union (.ranges Unicode.alphabetic)
    (.union (.ranges Unicode.decimalDigits)
      (.union (.ranges Unicode.connectors)
        (.union (.ranges Unicode.marks) (.ranges Unicode.joinControls))))

def digit : CharSet := .ranges Unicode.decimalDigits

def asciiDigit : CharSet := .ranges [(0x30, 0x39)]

def asciiSpace : CharSet := .ranges [(0x09, 0x0d), (0x20, 0x20)]

def asciiWord : CharSet := .ranges [(0x30, 0x39), (0x41, 0x5a), (0x5f, 0x5f), (0x61, 0x7a)]

/-- The ASCII classes by name. -/
def asciiClasses : List (String × Ranges) := [
  ("alnum", [(0x30, 0x39), (0x41, 0x5a), (0x61, 0x7a)]),
  ("alpha", [(0x41, 0x5a), (0x61, 0x7a)]),
  ("ascii", [(0x00, 0x7f)]),
  ("blank", [(0x09, 0x09), (0x20, 0x20)]),
  ("cntrl", [(0x00, 0x1f), (0x7f, 0x7f)]),
  ("digit", [(0x30, 0x39)]),
  ("graph", [(0x21, 0x7e)]),
  ("lower", [(0x61, 0x7a)]),
  ("print", [(0x20, 0x7e)]),
  ("punct", [(0x21, 0x2f), (0x3a, 0x40), (0x5b, 0x60), (0x7b, 0x7e)]),
  ("space", [(0x09, 0x0d), (0x20, 0x20)]),
  ("upper", [(0x41, 0x5a)]),
  ("word", [(0x30, 0x39), (0x41, 0x5a), (0x5f, 0x5f), (0x61, 0x7a)]),
  ("xdigit", [(0x30, 0x39), (0x41, 0x46), (0x61, 0x66)])]

/-- A property name without case, blanks, hyphens and low lines, and without a leading `is`. -/
def looseName (name : List Char) : String :=
  let small := name.map Char.toLower
  let (bare, shortened) := match small with
    | 'i' :: 's' :: rest => (rest, true)
    | _ => (small, false)
  let kept := bare.filter fun c => c != ' ' && c != '_' && c != '-' && c.toNat < 0x80
  if shortened && kept == ['c'] then "isc" else .ofList kept

/-- The code points of a general category or of a group of them. -/
def ofCategory? (name : String) : Option CharSet :=
  if name = "any" then some (.ranges [(0, lastPoint)])
  else if name = "ascii" then some (.ranges [(0, 0x7f)])
  else if name = "assigned" then
    some (.complement lastPoint (.ranges (Unicode.rangesOfCodes ["Cn"])))
  else
    (Unicode.categoryNames.find? (·.1.contains name)).map fun category =>
      .ranges (Unicode.rangesOfCodes category.2)

def ofScript? (name : String) : Option CharSet :=
  (Unicode.scriptCode? name).map fun code => .ranges (Unicode.rangesOfScript code)

/-- The code points of a script together with those it shares. -/
def ofScriptUse? (name : String) : Option CharSet :=
  (Unicode.scriptCode? name).map fun code =>
    .union (.ranges (Unicode.rangesSharedBy code))
      (.difference (.ranges (Unicode.rangesOfScript code)) (.ranges Unicode.sharedRanges))

/-- The set that a name alone stands for: a binary property, a category or a script. -/
def ofName? (name : String) : Option CharSet :=
  let property :=
    if name = "cf" ∨ name = "sc" ∨ name = "lc" then none
    else (Unicode.binaryProperties.find? (·.1.contains name)).map fun property =>
      .ranges property.2
  (property.or (ofCategory? name)).or (ofScript? name)

/-- The set that a property with a value stands for. -/
def ofProperty? (property value : String) : Option CharSet :=
  if property = "gc" ∨ property = "generalcategory" then ofCategory? value
  else if property = "sc" ∨ property = "script" then ofScript? value
  else if property = "scx" ∨ property = "scriptextensions" then ofScriptUse? value
  else none

end CharSet

end ThreatModel.Pattern
