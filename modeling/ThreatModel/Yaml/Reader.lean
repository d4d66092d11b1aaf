import ThreatModel.Settings.Source
import ThreatModel.Yaml.Block
import ThreatModel.Yaml.Scalar

/-!
Reading YAML: one document of collections in blocks or in brackets, with plain, quoted and block
scalars and comments. Keys are scalars. Anchors, tags and keys that begin with a question mark are
refused.
-/

namespace ThreatModel.Yaml

/-- A plain scalar as a source. -/
def plainSource (text : String) : Source := .plain text (looksLike text)

/-- Nothing where a value could stand. -/
def absent : Source := plainSource ""

/-- The scalar at a cursor, with whether it is in quotes. -/
def readScalar? (flow : Bool) (indent : Nat) (cursor : Cursor) : Option (ScalarRead × Bool) :=
  if cursor.head? = some '"' || cursor.head? = some '\x27' then
    (readQuoted? cursor).map (·, true)
  else (readPlain? flow indent cursor).map (·, false)

def scalarSource (scalar : ScalarRead) (quoted : Bool) : Source :=
  if quoted then .json (.string scalar.text) else plainSource scalar.text

mutual

/-- A node in brackets. -/
def readFlow : Nat → Cursor → Option (Source × Cursor)
  | 0, _ => none
  | fuel + 1, cursor =>
      if cursor.head? = some '[' then
        (readFlowItems fuel [] (cursor.advance 1)).map fun (items, after) => (.list items, after)
      else if cursor.head? = some '\x7b' then
        (readFlowEntries fuel [] (cursor.advance 1)).map fun (entries, after) =>
          (.map entries, after)
      else
        (readScalar? true 0 cursor).map fun (scalar, quoted) =>
          (scalarSource scalar quoted, scalar.after)

/-- The value after a colon in brackets, which may be absent. -/
def readFlowValue : Nat → Cursor → Option (Source × Cursor)
  | 0, _ => none
  | fuel + 1, cursor =>
      let (cursor, _) := cursor.skip true true
      if [some ',', some ']', some '\x7d'].contains cursor.head? then some (absent, cursor)
      else readFlow fuel cursor

/-- The elements of a list from after its bracket or a comma; a pair is a map of one entry. -/
def readFlowItems : Nat → List Source → Cursor → Option (List Source × Cursor)
  | 0, _, _ => none
  | fuel + 1, done, cursor => do
      let (cursor, _) := cursor.skip true true
      if cursor.head? = some ']' then some (done.reverse, cursor.advance 1)
      else
        let (first, after) ← readFlow fuel cursor
        let (after, _) := after.skip true true
        let (item, after) ←
          if after.head? = some ':' then
            match first with
            | .list _ => none
            | .map _ => none
            | key => do
                let name ← key.string?
                let (value, after) ← readFlowValue fuel (after.advance 1)
                some (Source.map [(name, value)], after)
          else some (first, after)
        let (after, _) := after.skip true true
        if after.head? = some ',' then readFlowItems fuel (item :: done) (after.advance 1)
        else if after.head? = some ']' then some ((item :: done).reverse, after.advance 1)
        else none

/-- The entries of a map from after its bracket or a comma. -/
def readFlowEntries :
    Nat → List (String × Source) → Cursor → Option (List (String × Source) × Cursor)
  | 0, _, _ => none
  | fuel + 1, done, cursor => do
      let (cursor, _) := cursor.skip true true
      if cursor.head? = some '\x7d' then some (done.reverse, cursor.advance 1)
      else
        let (key, _) ← readScalar? true 0 cursor
        let (after, _) := key.after.skip true true
        let (value, after) ←
          if after.head? = some ':' then readFlowValue fuel (after.advance 1)
          else some (absent, after)
        let (after, _) := after.skip true true
        let done := (key.text, value) :: done
        if after.head? = some ',' then readFlowEntries fuel done (after.advance 1)
        else if after.head? = some '\x7d' then some (done.reverse, after.advance 1)
        else none

end

/-- The cursor at the next line, where nothing else stands on this one. -/
def nextLine? (cursor : Cursor) : Option Cursor :=
  let (next, crossed) := cursor.skip false true
  if crossed then some next else none

/-- A key on one line with the cursor after its colon. -/
def readKey? (cursor : Cursor) : Option (String × Cursor) := do
  let (scalar, _) ← readScalar? false 0 cursor
  if scalar.manyLines then none
  else
    let blanks := scalar.after.rest.takeWhile fun c => c = ' ' || c = '\t'
    let after := scalar.after.advance blanks.length
    if after.startsWith ':' then some (scalar.text, after.advance 1) else none

mutual

/-- A node whose lines stand at `indent` or further right. Inside the line of a key, `inline` holds,
and no collection in a block may begin. The cursor of the result stands at a new line. -/
def readBlock : Nat → Nat → Bool → Cursor → Option (Source × Cursor)
  | 0, _, _, _ => none
  | fuel + 1, indent, inline, cursor =>
      if cursor.startsWith '-' then
        if inline then none
        else (readItems fuel cursor.column [] cursor).map fun (items, after) => (.list items, after)
      else if cursor.head? = some '|' || cursor.head? = some '>' then
        (readBlockScalar? indent cursor).map fun (text, after) =>
          (.json (.string text), (after.skip false false).1)
      else if cursor.head? = some '[' || cursor.head? = some '\x7b' then do
        let (node, after) ← readFlow fuel cursor
        (nextLine? after).map (node, ·)
      else
        match inline, readKey? cursor with
        | false, some _ =>
            (readEntries fuel cursor.column [] cursor).map fun (entries, after) =>
              (.map entries, after)
        | _, _ => do
            let (scalar, quoted) ← readScalar? false indent cursor
            (nextLine? scalar.after).map (scalarSource scalar quoted, ·)

/-- The elements of a list whose dashes stand in a column. -/
def readItems : Nat → Nat → List Source → Cursor → Option (List Source × Cursor)
  | 0, _, _, _ => none
  | fuel + 1, column, done, cursor =>
      if cursor.atEnd || cursor.column != column || !cursor.startsWith '-' then
        some (done.reverse, cursor)
      else
        let (next, crossed) := (cursor.advance 1).skip false false
        if next.atEnd || (crossed && next.column ≤ column) then
          readItems fuel column (absent :: done) next
        else do
          let (item, after) ← readBlock fuel (column + 1) false next
          readItems fuel column (item :: done) after

/-- The entries of a map whose keys stand in a column. -/
def readEntries :
    Nat → Nat → List (String × Source) → Cursor → Option (List (String × Source) × Cursor)
  | 0, _, _, _ => none
  | fuel + 1, column, done, cursor =>
      if cursor.atEnd || cursor.column < column then some (done.reverse, cursor)
      else if cursor.column != column then none
      else do
        let (key, afterKey) ← readKey? cursor
        let (next, crossed) := afterKey.skip false true
        let (value, after) ←
          if next.atEnd then some (absent, next)
          else if !crossed then readBlock fuel (column + 1) true next
          else if column < next.column then readBlock fuel (column + 1) false next
          else if next.column = column && next.startsWith '-' then
            (readItems fuel column [] next).map fun (items, after) => (.list items, after)
          else some (absent, next)
        readEntries fuel column ((key, value) :: done) after

end

/-- The characters that may stand in a text. -/
def isAllowed (c : Char) : Bool :=
  let point := c.toNat
  point = 0x09 || point = 0x0a || point = 0x0d || (0x20 ≤ point && point ≤ 0x7e) || point = 0x85 ||
    (0xa0 ≤ point && point ≤ 0xfffd && point != 0xfeff) || 0x10000 ≤ point

/-- The text with all line ends alike. -/
def unifyBreaks : List Char → List Char
  | '\r' :: '\n' :: rest => '\n' :: unifyBreaks rest
  | c :: rest => (if c = '\r' || c = '\x85' then '\n' else c) :: unifyBreaks rest
  | [] => []

/-- The text without the byte order mark that it may begin with. -/
def withoutMark : List Char → List Char
  | '\ufeff' :: rest => rest
  | chars => chars

/-- The deepest nesting of collections. -/
def maxDepth : Nat := 128

/-- The end of a document has nothing after it but the mark of the end. -/
def isDone (cursor : Cursor) : Bool :=
  if cursor.startsMark '.' then ((cursor.advance 3).skip false true).1.rest.isEmpty
  else cursor.rest.isEmpty

/-- The document that a text holds. -/
def parse? (text : String) : Option Source := do
  let chars := unifyBreaks (withoutMark text.toList)
  if chars.all isAllowed then
    let (start, _) := (Cursor.mk chars 0).skip false false
    let (start, _) :=
      if start.startsMark '-' then (start.advance 3).skip false true else (start, true)
    if start.atEnd then if isDone start then some absent else none
    else
      let (node, after) ← readBlock (4 * chars.length + 16) 0 false start
      if isDone after ∧ node.height ≤ maxDepth then some node else none
  else none

end ThreatModel.Yaml
