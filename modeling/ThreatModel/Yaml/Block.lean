import ThreatModel.Yaml.Cursor

/-!
Block scalars: lines that are indented further than what holds them, kept as they are or folded. The
first line with something in it sets the indentation, unless the header does. The header also says
which of the line breaks at the end are kept: by default the first.
-/

namespace ThreatModel.Yaml

/-- Which line breaks at the end stay. -/
inductive Chomping
  | strip
  | clip
  | keep
deriving DecidableEq

structure BlockHeader where
  chomping : Chomping
  /-- How much further than its holder the scalar is indented, where the header says so. -/
  increment : Option Nat

/-- A chomping mark. -/
def chompingOf? (c : Char) : Option Chomping :=
  if c = '+' then some .keep else if c = '-' then some .strip else none

/-- An indentation digit, which is not zero. -/
def incrementOf? (c : Char) : Option Nat :=
  if '1' ≤ c ∧ c ≤ '9' then some (c.toNat - '0'.toNat) else none

/-- The marks after the sign of a block scalar, in either order. -/
def readHeader (chars : List Char) : BlockHeader × List Char :=
  match chars with
  | first :: rest =>
      match chompingOf? first, incrementOf? first with
      | some chomping, _ =>
          match rest.head?.bind incrementOf? with
          | some increment => (⟨chomping, some increment⟩, rest.drop 1)
          | none => (⟨chomping, none⟩, rest)
      | none, some increment =>
          match rest.head?.bind chompingOf? with
          | some chomping => (⟨chomping, some increment⟩, rest.drop 1)
          | none => (⟨.clip, some increment⟩, rest)
      | none, none => (⟨.clip, none⟩, chars)
  | [] => (⟨.clip, none⟩, [])

/-- What follows a header on its line: blanks, and a comment after them. -/
def afterHeader? (chars : List Char) : Option (List Char) :=
  match chars.dropWhile fun c => c = ' ' || c = '\t' with
  | [] => some []
  | '\n' :: rest => some rest
  | '#' :: rest => some ((rest.dropWhile (· != '\n')).drop 1)
  | _ => none

/-- Pass over indentation up to `indent`, if that is known, and over empty lines. The result is the
cursor, how many lines were empty, and the greatest indentation met. -/
def skipEmptyLines (indent : Option Nat) (column breaks widest : Nat) :
    List Char → Option (Cursor × Nat × Nat)
  | [] => some (⟨[], column⟩, breaks, max widest column)
  | c :: rest =>
      let inside : Bool := indent.all fun indent => column < indent
      if c = ' ' && inside then
        skipEmptyLines indent (column + 1) breaks (max widest (column + 1)) rest
      else if c = '\t' && inside then none
      else if c = '\n' then skipEmptyLines indent 0 (breaks + 1) (max widest column) rest
      else some (⟨c :: rest, column⟩, breaks, max widest column)

/-- Read the lines of a block scalar; `done` holds what is written, last first, `lineBreak` says
that the break of the last line is not written, and `breaks` counts the empty lines after it. -/
def readBlockLines (literal : Bool) (chomping : Chomping) (indent : Nat) :
    Nat → List Char → Bool → Nat → Bool → Cursor → Option (String × Cursor)
  | 0, _, _, _, _, _ => none
  | fuel + 1, done, lineBreak, breaks, leadingBlank, cursor =>
      if cursor.column = indent ∧ ¬ cursor.rest.isEmpty then
        let blank : Bool := cursor.head? = some ' ' || cursor.head? = some '\t'
        let before :=
          if !literal && lineBreak && !leadingBlank && !blank then
            if breaks = 0 then [' '] else List.replicate breaks '\n'
          else List.replicate (breaks + if lineBreak then 1 else 0) '\n'
        let line := cursor.rest.takeWhile (· != '\n')
        let after := cursor.rest.dropWhile (· != '\n')
        match skipEmptyLines (some indent) 0 0 0 (after.drop 1) with
        | some (next, breaks, _) =>
            readBlockLines literal chomping indent fuel (line.reverse ++ before ++ done)
              (!after.isEmpty) breaks blank next
        | none => none
      else
        let kept := match chomping with
          | .strip => 0
          | .clip => if lineBreak then 1 else 0
          | .keep => breaks + if lineBreak then 1 else 0
        some (.ofList (List.replicate kept '\n' ++ done).reverse, cursor)

/-- Read a block scalar from its sign on. What holds it allows no line left of `indent`. -/
def readBlockScalar? (indent : Nat) (cursor : Cursor) : Option (String × Cursor) := do
  let literal : Bool := cursor.head? = some '|'
  let (header, rest) := readHeader (cursor.rest.drop 1)
  let lines ← afterHeader? rest
  let known := header.increment.map fun increment => indent - 1 + increment
  let (next, breaks, widest) ← skipEmptyLines known 0 0 0 lines
  readBlockLines literal header.chomping (known.getD (max widest (max indent 1)))
    (lines.length + 1) [] false breaks false next

end ThreatModel.Yaml
