import ThreatModel.Unicode.Ranges

/-!
A place in a YAML text, and reading scalars from it. The column decides to which collection a line
belongs. Lines of a scalar are folded: a single line break counts as a blank, and of several the
first is dropped.
-/

namespace ThreatModel.Yaml

/-- What follows a place, and how far it is from the beginning of its line. -/
structure Cursor where
  rest : List Char
  column : Nat
deriving Inhabited

/-- A character that ends a word, or the end of the text. -/
def isGap : Option Char → Bool
  | none => true
  | some c => c = ' ' || c = '\t' || c = '\n'

namespace Cursor

/-- The cursor after `count` characters of its line. -/
def advance (cursor : Cursor) (count : Nat) : Cursor :=
  ⟨cursor.rest.drop count, cursor.column + count⟩

/-- The character at the cursor. -/
def head? (cursor : Cursor) : Option Char := cursor.rest.head?

/-- A mark of three characters at the beginning of a line. -/
def startsMark (cursor : Cursor) (mark : Char) : Bool :=
  cursor.column = 0 && (cursor.rest.take 3 = [mark, mark, mark]) && isGap cursor.rest[3]?

/-- The end of the document. -/
def atEnd (cursor : Cursor) : Bool :=
  cursor.rest.isEmpty || cursor.startsMark '.' || cursor.startsMark '-'

/-- A character that has to be followed by a gap. -/
def startsWith (cursor : Cursor) (c : Char) : Bool :=
  cursor.head? = some c && isGap cursor.rest[1]?

/-- Pass over white space and comments. Tabs count as white space only where no indentation stands,
unless `flow` holds. The result says whether a line ended. -/
def skipFrom (flow tabs comment crossed : Bool) (column : Nat) : List Char → Cursor × Bool
  | [] => (⟨[], column⟩, true)
  | c :: rest =>
      if c = '\n' then skipFrom flow flow false true 0 rest
      else if comment then skipFrom flow tabs true crossed (column + 1) rest
      else if c = ' ' || (c = '\t' && tabs) then skipFrom flow tabs false crossed (column + 1) rest
      else if c = '#' then skipFrom flow tabs true crossed (column + 1) rest
      else (⟨c :: rest, column⟩, crossed)

def skip (cursor : Cursor) (flow tabs : Bool) : Cursor × Bool :=
  skipFrom flow (flow || tabs) false false cursor.column cursor.rest

end Cursor

/-- White space inside a scalar that is not written yet: the blanks of the line, last first, and how
many lines ended. -/
structure Pending where
  blanks : List Char
  breaks : Nat
  /-- The first line ended with a backslash. -/
  joined : Bool

namespace Pending

def none : Pending := ⟨[], 0, false⟩

/-- What the white space counts as, last character first. -/
def folded (pending : Pending) : List Char :=
  if pending.joined then List.replicate pending.breaks '\n'
  else
    match pending.breaks with
    | 0 => pending.blanks
    | 1 => [' ']
    | breaks + 1 => List.replicate breaks '\n'

/-- One more blank; at the beginning of a line it is dropped. -/
def blank (pending : Pending) (c : Char) : Pending :=
  if pending.breaks = 0 && !pending.joined then { pending with blanks := c :: pending.blanks }
  else pending

def lineBreak (pending : Pending) : Pending :=
  { pending with blanks := [], breaks := pending.breaks + 1 }

end Pending

/-- A scalar with the cursor after it; `manyLines` says whether it went over a line end. -/
structure ScalarRead where
  text : String
  after : Cursor
  manyLines : Bool

/-- The characters that end a plain scalar inside brackets. -/
def isBracketing (c : Char) : Bool :=
  c = ',' || c = '[' || c = ']' || c = '\x7b' || c = '\x7d'

/-- Read a plain scalar on: `done` holds what is written, last first, `last` the cursor after it. In
a block the lines that follow stand at `indent` or further right. -/
def readPlainFrom (flow : Bool) (indent : Nat) (done : List Char) (last : Cursor)
    (pending : Pending) (manyLines : Bool) (column : Nat) : List Char → Option ScalarRead
  | [] => some ⟨.ofList done.reverse, last, manyLines⟩
  | c :: rest =>
      let stop := some ⟨.ofList done.reverse, last, manyLines⟩
      let fresh := 0 < pending.breaks
      if c = '\n' then
        readPlainFrom flow indent done last pending.lineBreak manyLines 0 rest
      else if c = ' ' || c = '\t' then
        if fresh && c = '\t' && !flow && column < indent then none
        else readPlainFrom flow indent done last (pending.blank c) manyLines (column + 1) rest
      else if c = '#' && (fresh || !pending.blanks.isEmpty) then stop
      else if fresh && ((!flow && column < indent) || Cursor.atEnd ⟨c :: rest, column⟩) then stop
      else if c = ':' && isGap rest.head? then stop
      else if flow && c = ':' && (rest.head?.all fun c => isBracketing c || c = '?') then none
      else if flow && isBracketing c then stop
      else
        readPlainFrom flow indent (c :: (pending.folded ++ done)) ⟨rest, column + 1⟩ .none
          (manyLines || fresh) (column + 1) rest

/-- The characters that begin no plain scalar. -/
def indicators : List Char :=
  [',', '[', ']', '\x7b', '\x7d', '#', '&', '*', '!', '|', '>', '\x27', '"', '%', '@', '\x60']

/-- A plain scalar may begin here. -/
def startsPlain (flow : Bool) (cursor : Cursor) : Bool :=
  match cursor.rest with
  | [] => false
  | c :: rest =>
      if c = '-' then
        match rest with
        | c :: _ => !(c = ' ' || c = '\t' || c = '\n')
        | [] => false
      else if c = '?' || c = ':' then !flow && !isGap rest.head?
      else !(isGap (some c)) && !(indicators.contains c)

/-- Read a plain scalar. -/
def readPlain? (flow : Bool) (indent : Nat) (cursor : Cursor) : Option ScalarRead :=
  if startsPlain flow cursor then
    readPlainFrom flow indent [] cursor .none false cursor.column cursor.rest
  else none

/-- Read a scalar in single quotes on, in which a quote is written twice. -/
def readSingleFrom (done : List Char) (pending : Pending) (manyLines : Bool) (column : Nat) :
    List Char → Option ScalarRead
  | [] => none
  | '\x27' :: '\x27' :: rest =>
      readSingleFrom ('\x27' :: (pending.folded ++ done)) .none manyLines (column + 2) rest
  | '\x27' :: rest =>
      some ⟨.ofList (pending.folded ++ done).reverse, ⟨rest, column + 1⟩, manyLines⟩
  | c :: rest =>
      if c = '\n' then readSingleFrom done pending.lineBreak true 0 rest
      else if c = ' ' || c = '\t' then
        readSingleFrom done (pending.blank c) manyLines (column + 1) rest
      else if Cursor.atEnd ⟨c :: rest, column⟩ then none
      else readSingleFrom (c :: (pending.folded ++ done)) .none manyLines (column + 1) rest

/-- The characters that stand for one after a backslash. -/
def simpleEscapes : List (Char × Char) :=
  [('0', '\x00'), ('a', '\x07'), ('b', '\x08'), ('t', '\t'), ('\t', '\t'), ('n', '\n'),
    ('v', '\x0b'), ('f', '\x0c'), ('r', '\r'), ('e', '\x1b'), (' ', ' '), ('"', '"'), ('/', '/'),
    ('\\', '\\'), ('N', '\x85'), ('_', '\xa0'), ('L', '\u2028'), ('P', '\u2029')]

/-- How many digits follow the letter of a numeric escape. -/
def escapeWidth? (c : Char) : Option Nat :=
  if c = 'x' then some 2 else if c = 'u' then some 4 else if c = 'U' then some 8 else none

/-- The character of hexadecimal digits; halves of surrogate pairs are none. -/
def charOfDigits? (digits : List Char) : Option Char :=
  if digits.all fun c => c.isDigit || ('a' ≤ c && c ≤ 'f') || ('A' ≤ c && c ≤ 'F') then
    let point := Unicode.hexNumber digits
    if point.isValidChar then some (.ofNat point) else none
  else none

/-- Read a scalar in double quotes on; `fuel` bounds its length. -/
def readDoubleFrom : Nat → List Char → Pending → Bool → Nat → List Char → Option ScalarRead
  | 0, _, _, _, _, _ => none
  | _, _, _, _, _, [] => none
  | _ + 1, done, pending, manyLines, column, '"' :: rest =>
      some ⟨.ofList (pending.folded ++ done).reverse, ⟨rest, column + 1⟩, manyLines⟩
  | fuel + 1, done, pending, _, _, '\\' :: '\n' :: rest =>
      readDoubleFrom fuel (pending.folded ++ done) ⟨[], 0, true⟩ true 0 rest
  | fuel + 1, done, pending, manyLines, column, '\\' :: c :: rest =>
      let written := pending.folded ++ done
      match simpleEscapes.find? (·.1 == c), escapeWidth? c with
      | some escape, _ =>
          readDoubleFrom fuel (escape.2 :: written) .none manyLines (column + 2) rest
      | none, some width =>
          let digits := rest.take width
          if digits.length = width then
            (charOfDigits? digits).bind fun c =>
              readDoubleFrom fuel (c :: written) .none manyLines (column + 2 + width)
                (rest.drop width)
          else none
      | none, none => none
  | fuel + 1, done, pending, manyLines, column, c :: rest =>
      if c = '\n' then readDoubleFrom fuel done pending.lineBreak true 0 rest
      else if c = ' ' || c = '\t' then
        readDoubleFrom fuel done (pending.blank c) manyLines (column + 1) rest
      else if Cursor.atEnd ⟨c :: rest, column⟩ then none
      else readDoubleFrom fuel (c :: (pending.folded ++ done)) .none manyLines (column + 1) rest

/-- Read a scalar in quotes of either kind. -/
def readQuoted? (cursor : Cursor) : Option ScalarRead :=
  match cursor.rest with
  | '\x27' :: rest => readSingleFrom [] .none false (cursor.column + 1) rest
  | '"' :: rest => readDoubleFrom (rest.length + 1) [] .none false (cursor.column + 1) rest
  | _ => none

end ThreatModel.Yaml
