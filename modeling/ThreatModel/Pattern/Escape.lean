import ThreatModel.Pattern.Expr
import ThreatModel.Pattern.Flags

/-!
Escapes: what a backslash and the characters after it stand for. A character may be given by its
number, a set by its Unicode property, and a condition by its letter.
-/

namespace ThreatModel.Pattern

/-- What stands for itself, for a set or for a condition. -/
inductive Atom
  | literal (c : Char)
  /-- A byte given by two hexadecimal digits outside Unicode mode. -/
  | byte (value : Nat)
  | set (set : CharSet)
  | look (look : Look)

/-- Punctuation with a meaning in patterns. -/
def isMeta (c : Char) : Bool :=
  "\\.+*?()|[]\x7b\x7d^$#&-~".toList.contains c

/-- A character that stands for itself after a backslash. -/
def isEscapable (c : Char) : Bool :=
  isMeta c || (c.toNat < 0x80 && !c.isAlphanum && c != '<' && c != '>')

/-- A code point by its number, if it is a character. -/
def charOf? (point : Nat) : Option Char :=
  if point.isValidChar then some (.ofNat point) else none

def isHex (c : Char) : Bool :=
  c.isDigit || ('a' ≤ c && c ≤ 'f') || ('A' ≤ c && c ≤ 'F')

/-- A character given by its number, a byte where two digits outside Unicode mode say so. -/
def hexAtom? (flags : Flags) (letter : Char) (digits : List Char) : Option Atom :=
  let point := Unicode.hexNumber digits
  (charOf? point).map fun c =>
    if letter = 'x' ∧ ¬ flags.unicode ∧ 0x80 ≤ point ∧ point ≤ 0xff then .byte point
    else .literal c

/-- The given number of hexadecimal digits. -/
def readHexDigits (flags : Flags) : Nat → List Char → Option (List Char × List Char)
  | 0, chars => some ([], chars)
  | count + 1, c :: rest => do
      if !isHex c then none
      let (digits, rest) ← readHexDigits flags count (flags.skip rest)
      some (c :: digits, rest)
  | _ + 1, [] => none

/-- Hexadecimal digits up to a closing brace. -/
def readBracedHex (flags : Flags) : Nat → List Char → Option (List Char × List Char)
  | 0, _ => none
  | _ + 1, [] => none
  | fuel + 1, c :: rest => do
      if c = '\x7d' then some ([], flags.skip rest)
      else if isHex c then
        let (digits, rest) ← readBracedHex flags fuel (flags.skip rest)
        some (c :: digits, rest)
      else none

/-- A character by its number, after `\x`, `\u` or `\U`. -/
def readHexEscape (flags : Flags) (letter : Char) (chars : List Char) :
    Option (Atom × List Char) :=
  match flags.skip chars with
  | '\x7b' :: rest => do
      let (digits, rest) ← readBracedHex flags (rest.length + 1) (flags.skip rest)
      if digits.isEmpty then none
      let atom ← hexAtom? flags letter digits
      some (atom, rest)
  | chars => do
      let count := if letter = 'x' then 2 else if letter = 'u' then 4 else 8
      let (digits, rest) ← readHexDigits flags count chars
      let atom ← hexAtom? flags letter digits
      some (atom, rest)

/-- Split at the first place where `separator` stands. -/
def splitAt? (separator : List Char) : List Char → Option (List Char × List Char)
  | [] => none
  | c :: rest =>
      if separator.isPrefixOf (c :: rest) then some ([], (c :: rest).drop separator.length)
      else (splitAt? separator rest).map fun (before, after) => (c :: before, after)

/-- The set that the text between the braces of a property stands for, and whether the text itself
negates it. -/
def propertySet? (name : List Char) : Option (CharSet × Bool) :=
  let loose := CharSet.looseName
  match splitAt? ['!', '='] name with
  | some (property, value) => (CharSet.ofProperty? (loose property) (loose value)).map (·, true)
  | none =>
      match (splitAt? [':'] name).or (splitAt? ['='] name) with
      | some (property, value) =>
          (CharSet.ofProperty? (loose property) (loose value)).map (·, false)
      | none => (CharSet.ofName? (loose name)).map (·, false)

/-- A property after `\p` or `\P`. -/
def readProperty (flags : Flags) (negated : Bool) (chars : List Char) :
    Option (Atom × List Char) := do
  if !flags.unicode then none
  match flags.skip chars with
  | '\x7b' :: rest =>
      let (name, rest) ← splitAt? ['\x7d'] rest
      let name := if flags.verbose then name.filter (!Unicode.isBlank ·) else name
      let (set, opposite) ← propertySet? name
      some (.set (flags.close (negated != opposite) set), rest)
  | c :: rest =>
      if c = '\\' then none
      let set ← CharSet.ofName? (CharSet.looseName [c])
      some (.set (flags.close negated set), rest)
  | [] => none

/-- The set of `\d`, `\s` or `\w`, or of its capital. -/
def classAtom? (flags : Flags) (letter : Char) : Option Atom :=
  let ascii := !flags.unicode
  let found := match letter.toLower with
    | 'd' => some (if ascii then CharSet.asciiDigit else CharSet.digit)
    | 's' => some (if ascii then CharSet.asciiSpace else CharSet.whiteSpace)
    | 'w' => some (if ascii then CharSet.asciiWord else CharSet.word)
    | _ => none
  found.map fun set =>
    .set (if letter.isUpper then .complement flags.lastMember set else set)

/-- The word boundary that a name in braces stands for. -/
def namedBoundary? (ascii : Bool) (name : String) : Option Look :=
  if name = "start" then some (.wordStart ascii)
  else if name = "end" then some (.wordEnd ascii)
  else if name = "start-half" then some (.wordStartHalf ascii)
  else if name = "end-half" then some (.wordEndHalf ascii)
  else none

/-- A word boundary after `\b`. Braces that begin with a letter or a hyphen name its kind; other
braces are left for a repetition. -/
def readBoundary (flags : Flags) (chars : List Char) : Option (Atom × List Char) :=
  let ascii := !flags.unicode
  let isName (c : Char) : Bool := c.isAlpha || c == '-'
  match chars with
  | '\x7b' :: rest =>
      match flags.skip rest with
      | [] => none
      | c :: after =>
          if isName c then
            let chars := if flags.verbose then
                (c :: after).filter (!Unicode.isBlank ·)
              else c :: after
            let name := chars.takeWhile isName
            match chars.dropWhile isName with
            | '\x7d' :: rest => (namedBoundary? ascii (.ofList name)).map (.look ·, rest)
            | _ => none
          else some (.look (.wordBoundary ascii), chars)
  | _ => some (.look (.wordBoundary ascii), chars)

/-- What a backslash and the characters after it stand for. -/
def readEscape (flags : Flags) : List Char → Option (Atom × List Char)
  | [] => none
  | c :: rest =>
      let ascii := !flags.unicode
      match c with
      | 'x' => readHexEscape flags 'x' rest
      | 'u' => readHexEscape flags 'u' rest
      | 'U' => readHexEscape flags 'U' rest
      | 'p' => readProperty flags false rest
      | 'P' => readProperty flags true rest
      | 'a' => some (.literal '\x07', rest)
      | 'f' => some (.literal '\x0c', rest)
      | 't' => some (.literal '\t', rest)
      | 'n' => some (.literal '\n', rest)
      | 'r' => some (.literal '\r', rest)
      | 'v' => some (.literal '\x0b', rest)
      | 'A' => some (.look .textStart, rest)
      | 'z' => some (.look .textEnd, rest)
      | 'b' => readBoundary flags rest
      | 'B' => some (.look (.noWordBoundary ascii), rest)
      | '<' => some (.look (.wordStart ascii), rest)
      | '>' => some (.look (.wordEnd ascii), rest)
      | _ =>
          if isEscapable c then some (.literal c, rest)
          else (classAtom? flags c).map (·, rest)

end ThreatModel.Pattern
