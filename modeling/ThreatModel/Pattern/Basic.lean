import ThreatModel.Pattern.Reader
import ThreatModel.Pattern.Search

/-!
Patterns and what is done with them: matching, finding all matches, splitting between them and
replacing them. Matches do not overlap, and an empty match does not follow right upon another match.
-/

namespace ThreatModel

/-- A compiled pattern. -/
structure Pattern where
  source : String
  program : Array Pattern.Step
  start : Nat
  groupCount : Nat
  groupNames : List (String × Nat)

namespace Pattern

/-- Compile a pattern; none when it is not well formed. -/
def compile? (source : String) : Option Pattern :=
  (read? source).map fun (expr, groups, names) =>
    let (program, start) := compileProgram expr
    ⟨source, program, start, groups, names⟩

/-- The first match at or after a place. -/
def search? (pattern : Pattern) (text : Array Char) (place : Nat) : Option Slots :=
  searchOn pattern.program pattern.start (2 * (pattern.groupCount + 1)) text
    (text.size + 1 - place) place (.empty pattern.program.size) none

/-- The bounds of a group in a match. -/
def bounds? (slots : Slots) (group : Nat) : Option (Nat × Nat) :=
  match slots[2 * group]?, slots[2 * group + 1]? with
  | some (some first), some (some last) => some (first, last)
  | _, _ => none

/-- The characters between two places. -/
def between (text : Array Char) (first last : Nat) : List Char :=
  (text.extract first last).toList

/-- The text of a group in a match. -/
def groupText? (text : Array Char) (slots : Slots) (group : Nat) : Option (List Char) :=
  (bounds? slots group).map fun (first, last) => between text first last

/-- Some part of the text matches. -/
def isMatch (pattern : Pattern) (text : String) : Bool :=
  (pattern.search? text.toList.toArray 0).isSome

/-- The text of a group in the first match. -/
def capture? (pattern : Pattern) (text : String) (group : Nat) : Option String :=
  let chars := text.toList.toArray
  (pattern.search? chars 0).bind fun slots => (groupText? chars slots group).map .ofList

/-- All matches from a place on, after one that ended at `lastEnd`. -/
def matchesFrom (pattern : Pattern) (text : Array Char) :
    Nat → Nat → Option Nat → List (Slots × Nat × Nat)
  | 0, _, _ => []
  | fuel + 1, place, lastEnd =>
      if text.size < place then []
      else
        match pattern.search? text place with
        | none => []
        | some slots =>
            match bounds? slots 0 with
            | none => []
            | some (first, last) =>
                if first = last ∧ lastEnd = some last then
                  matchesFrom pattern text fuel (place + 1) lastEnd
                else (slots, first, last) :: matchesFrom pattern text fuel last (some last)

/-- All matches, with their bounds. -/
def matchList (pattern : Pattern) (text : Array Char) : List (Slots × Nat × Nat) :=
  pattern.matchesFrom text (2 * text.size + 2) 0 none

/-- The pieces of a text from a place on, between matches. -/
def piecesFrom (text : Array Char) (place : Nat) : List (Slots × Nat × Nat) → List (List Char)
  | [] => [between text place text.size]
  | (_, first, last) :: rest => between text place first :: piecesFrom text last rest

/-- The pieces of a text between matches. -/
def split (pattern : Pattern) (text : String) : List String :=
  let chars := text.toList.toArray
  (piecesFrom chars 0 (pattern.matchList chars)).map .ofList

/-- A reference to a group, by number or by name. -/
inductive GroupRef
  | number (index : Nat)
  | name (name : String)

/-- A name of digits, which a plus sign may open, refers by number as far as 64 bits go. -/
def GroupRef.ofName (name : List Char) : GroupRef :=
  let digits := match name with
    | '+' :: rest => rest
    | _ => name
  if digits.isEmpty || !digits.all (·.isDigit) then .name (.ofList name)
  else
    let value := digits.foldl (fun value digit => value * 10 + (digit.toNat - '0'.toNat)) 0
    if value < Nat.pow 2 64 then .number value else .name (.ofList name)

/-- A part of a replacement. -/
inductive ReplacementPart
  | literal (c : Char)
  | group (ref : GroupRef)

/-- A character of a name without braces. -/
def isReferenceChar (c : Char) : Bool := c.isAlphanum || c == '_'

/-- The parts of a replacement. A doubled dollar sign is one of itself, and one that begins no
reference stands for itself. -/
def readReplacement : Nat → List Char → List ReplacementPart
  | 0, _ => []
  | _, [] => []
  | fuel + 1, '$' :: '$' :: rest => .literal '$' :: readReplacement fuel rest
  | fuel + 1, '$' :: '\x7b' :: rest =>
      match rest.dropWhile (· != '\x7d') with
      | _ :: after =>
          .group (.ofName (rest.takeWhile (· != '\x7d'))) :: readReplacement fuel after
      | [] => .literal '$' :: readReplacement fuel ('\x7b' :: rest)
  | fuel + 1, '$' :: rest =>
      let name := rest.takeWhile isReferenceChar
      if name.isEmpty then .literal '$' :: readReplacement fuel rest
      else .group (.ofName name) :: readReplacement fuel (rest.dropWhile isReferenceChar)
  | fuel + 1, c :: rest => .literal c :: readReplacement fuel rest

/-- What a part of a replacement becomes for a match; a group that is not there is nothing. -/
def expandPart (pattern : Pattern) (text : Array Char) (slots : Slots) :
    ReplacementPart → List Char
  | .literal c => [c]
  | .group (.number index) => (groupText? text slots index).getD []
  | .group (.name name) =>
      ((pattern.groupNames.find? (·.1 == name)).bind fun group =>
        groupText? text slots group.2).getD []

/-- A text from a place on, with every match replaced. -/
def replaceFrom (pattern : Pattern) (parts : List ReplacementPart) (text : Array Char)
    (place : Nat) : List (Slots × Nat × Nat) → List Char
  | [] => between text place text.size
  | (slots, first, last) :: rest =>
      between text place first ++ parts.flatMap (pattern.expandPart text slots) ++
        replaceFrom pattern parts text last rest

/-- The text with every match replaced. -/
def replaceAll (pattern : Pattern) (text replacement : String) : String :=
  let chars := text.toList.toArray
  let written := replacement.toList
  .ofList (pattern.replaceFrom (readReplacement (written.length + 1) written) chars 0
    (pattern.matchList chars))

end Pattern

/-- Compiled patterns, kept under their sources. -/
structure PatternStore where
  stored : List (String × Pattern)

namespace PatternStore

def empty : PatternStore := ⟨[]⟩

/-- The compiled pattern of a source, compiled and stored when first asked for. A source that does
not compile is not stored. -/
def get (store : PatternStore) (source : String) : Option Pattern × PatternStore :=
  match store.stored.find? (·.1 == source) with
  | some entry => (some entry.2, store)
  | none =>
      match Pattern.compile? source with
      | some pattern => (some pattern, ⟨store.stored ++ [(source, pattern)]⟩)
      | none => (none, store)

def size (store : PatternStore) : Nat := store.stored.length

end PatternStore

end ThreatModel
