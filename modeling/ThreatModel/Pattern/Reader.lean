import ThreatModel.Pattern.Brackets

/-!
Reading patterns. Flags hold from where they are set to the end of the group around them. There is
no look-around and there are no back-references; a pattern that uses either is refused.
-/

namespace ThreatModel.Pattern

/-- A literal, in all its cases where case is ignored. -/
def literalExpr (flags : Flags) (c : Char) : Expr :=
  .set (if flags.ignoreCase then .variants (!flags.unicode) c.toNat else .single c.toNat)

/-- The expression of an atom outside brackets. -/
def atomExpr? (flags : Flags) : Atom → Option Expr
  | .literal c => some (literalExpr flags c)
  | .byte _ => none
  | .set set => (flags.admit? set).map .set
  | .look look => some (.look look)

/-- Any character, or any but a line break. -/
def dotExpr? (flags : Flags) : Option Expr :=
  if !flags.unicode then none
  else if flags.dotAll then some (.set (.ranges [(0, lastPoint)]))
  else if flags.anyLineBreak then
    some (.set (.ranges [(0, 0x09), (0x0b, 0x0c), (0x0e, lastPoint)]))
  else some (.set (.ranges [(0, 0x09), (0x0b, lastPoint)]))

def startExpr (flags : Flags) : Expr :=
  .look (if !flags.multiLine then .textStart
    else if flags.anyLineBreak then .lineStartAny else .lineStart)

def endExpr (flags : Flags) : Expr :=
  .look (if !flags.multiLine then .textEnd
    else if flags.anyLineBreak then .lineEndAny else .lineEnd)

/-- What is left of the pattern, the flags that hold, and the groups opened so far. -/
structure Position where
  flags : Flags
  groups : Nat
  names : List (String × Nat)
  rest : List Char

/-- Flags up to the colon or parenthesis that ends them; with that character. -/
def readFlags (used : List Char) (on justNegated : Bool) (flags : Flags) :
    List Char → Option (Flags × Char × List Char)
  | [] => none
  | c :: rest =>
      if c = ':' ∨ c = ')' then
        if justNegated ∨ (c = ')' ∧ used.isEmpty) then none else some (flags, c, rest)
      else if used.contains c then none
      else if c = '-' then readFlags (c :: used) false true flags rest
      else (flags.put? c on).bind fun flags => readFlags (c :: used) on false flags rest

/-- Letters and digits, as names of groups use them. -/
def isAlphabetic (c : Char) : Bool := Unicode.alphabetic.contains c.toNat

def isAlphanumeric (c : Char) : Bool :=
  isAlphabetic c || Unicode.numbers.contains c.toNat

/-- A character of a group's name. -/
def isNameChar (first : Bool) (c : Char) : Bool :=
  if first then c == '_' || isAlphabetic c
  else c == '_' || c == '.' || c == '[' || c == ']' || isAlphanumeric c

/-- A group's name up to its closing bracket. -/
def readName (chars : List Char) : Option (String × List Char) :=
  let name := chars.takeWhile (· != '>')
  match name, chars.dropWhile (· != '>') with
  | first :: others, '>' :: rest =>
      if isNameChar true first && others.all (isNameChar false) then
        some (.ofList name, rest)
      else none
  | _, _ => none

/-- A decimal number with blanks around it. -/
def readCount (flags : Flags) (chars : List Char) : Option (Option Nat × List Char) :=
  let chars := chars.dropWhile Unicode.isBlank
  let (digits, rest) := go (chars.length + 1) chars
  let rest := (rest.dropWhile Unicode.isBlank)
  if digits.isEmpty then some (none, rest)
  else
    let value := digits.foldl (fun value digit => value * 10 + (digit.toNat - '0'.toNat)) 0
    if value < Nat.pow 2 32 then some (some value, rest) else none
where
  go : Nat → List Char → List Char × List Char
    | fuel + 1, c :: rest =>
        if c.isDigit then
          let (digits, rest) := go fuel (flags.skip rest)
          (c :: digits, rest)
        else ([], c :: rest)
    | _, chars => ([], chars)

/-- A counted repetition after its opening brace: the bounds and what follows. -/
def readBounds (flags : Flags) (chars : List Char) :
    Option ((Nat × Option Nat) × List Char) := do
  let (least, rest) ← readCount flags (flags.skip chars)
  let least ← least
  match rest with
  | ',' :: rest =>
      match flags.skip rest with
      | '\x7d' :: rest => some ((least, none), rest)
      | rest =>
          let (most, rest) ← readCount flags rest
          let most ← most
          match rest with
          | '\x7d' :: rest => if least ≤ most then some ((least, some most), rest) else none
          | _ => none
  | '\x7d' :: rest => some ((least, some least), rest)
  | _ => none

/-- A repetition of the last part; a question mark after it makes it lazy. Flags cannot be
repeated. -/
def repeatLast? (flags : Flags) (least : Nat) (most : Option Nat) (done : List (Option Expr))
    (rest : List Char) : Option (List (Option Expr) × List Char) :=
  match done with
  | some last :: before =>
      let (lazy, rest) := match rest with
        | '?' :: rest => (true, rest)
        | _ => (false, rest)
      some (some (.repetition least most (lazy == flags.swapGreed) last) :: before, rest)
  | _ => none

/-- One expression of the parts read, last first; markers of flags fall away. -/
def sequenceOf (done : List (Option Expr)) : Expr :=
  match (done.filterMap id).reverse with
  | [] => .empty
  | [part] => part
  | parts => .sequence parts

/-- One expression of the alternatives read, last first. -/
def choiceOf : List Expr → Expr
  | [] => .empty
  | [alternative] => alternative
  | alternatives => .choice alternatives.reverse

/-- What an opening parenthesis begins. -/
inductive Opening
  /-- Flags for what follows. -/
  | flags
  | group (index : Option Nat)

/-- The text after an opening parenthesis up to where the group's body begins. -/
def readOpening (position : Position) (chars : List Char) : Option (Opening × Position) :=
  let chars := position.flags.skip chars
  let named (rest : List Char) : Option (Opening × Position) := do
    let (name, rest) ← readName rest
    if position.names.any (·.1 == name) then none
    else
      let index := position.groups + 1
      some (.group (some index),
        { position with groups := index, names := (name, index) :: position.names, rest := rest })
  match chars with
  | '?' :: '=' :: _ => none
  | '?' :: '!' :: _ => none
  | '?' :: '<' :: '=' :: _ => none
  | '?' :: '<' :: '!' :: _ => none
  | '?' :: 'P' :: '<' :: rest => named rest
  | '?' :: '<' :: rest => named rest
  | '?' :: rest => do
      let (flags, ending, rest) ← readFlags [] true false position.flags rest
      let opening := if ending = ')' then .flags else .group none
      some (opening, { position with flags := flags, rest := rest })
  | _ =>
      let index := position.groups + 1
      some (.group (some index), { position with groups := index, rest := chars })

/-- Alternatives up to a closing parenthesis or the end. `alternatives` and `done` hold what was
read, last first. -/
def readExpr : Nat → List Expr → List (Option Expr) → Position → Option (Expr × Position)
  | 0, _, _, _ => none
  | fuel + 1, alternatives, done, position =>
      let flags := position.flags
      let continueWith (done : List (Option Expr)) (rest : List Char) :=
        readExpr fuel alternatives done { position with rest := rest }
      let chars := flags.skip position.rest
      match chars with
      | [] => some (choiceOf (sequenceOf done :: alternatives), { position with rest := [] })
      | ')' :: _ =>
          some (choiceOf (sequenceOf done :: alternatives), { position with rest := chars })
      | '|' :: rest =>
          readExpr fuel (sequenceOf done :: alternatives) [] { position with rest := rest }
      | '(' :: rest => do
          let (opening, inner) ← readOpening position rest
          match opening with
          | .flags => readExpr fuel alternatives (none :: done) inner
          | .group index => do
              let (body, after) ← readExpr fuel [] [] inner
              match after.rest with
              | ')' :: rest =>
                  readExpr fuel alternatives (some (.group index body) :: done)
                    { after with flags := flags, rest := rest }
              | _ => none
      | '[' :: rest => do
          let (set, rest) ← readBrackets flags (2 * rest.length + 2) rest
          let set ← flags.admit? set
          continueWith (some (.set set) :: done) rest
      | '?' :: rest => (repeatLast? flags 0 (some 1) done rest).bind fun (done, rest) =>
          continueWith done rest
      | '*' :: rest => (repeatLast? flags 0 none done rest).bind fun (done, rest) =>
          continueWith done rest
      | '+' :: rest => (repeatLast? flags 1 none done rest).bind fun (done, rest) =>
          continueWith done rest
      | '\x7b' :: rest => do
          let ((least, most), rest) ← readBounds flags rest
          let (done, rest) ← repeatLast? flags least most done (flags.skip rest)
          continueWith done rest
      | '\\' :: rest => do
          let (atom, rest) ← readEscape flags rest
          let part ← atomExpr? flags atom
          continueWith (some part :: done) rest
      | '.' :: rest => do
          let part ← dotExpr? flags
          continueWith (some part :: done) rest
      | '^' :: rest => continueWith (some (startExpr flags) :: done) rest
      | '$' :: rest => continueWith (some (endExpr flags) :: done) rest
      | c :: rest => continueWith (some (literalExpr flags c) :: done) rest

/-- How deep a pattern may be nested. -/
def maxDepth : Nat := 250

/-- How much memory a compiled pattern may take. -/
def maxCost : Nat := 10 * Nat.pow 2 20

/-- The tree of a pattern, with the number of groups and their names. -/
def read? (source : String) : Option (Expr × Nat × List (String × Nat)) :=
  let chars := source.toList
  match readExpr (2 * chars.length + 2) [] [] ⟨.initial, 0, [], chars⟩ with
  | some (expr, position) =>
      if position.rest.isEmpty && expr.depth ≤ maxDepth && expr.cost ≤ maxCost then
        some (expr, position.groups, position.names)
      else none
  | none => none

end ThreatModel.Pattern
