import ThreatModel.Document.Search
import ThreatModel.Reference.Basic

/-!
Resolving references. The tags belong to the referring key, which may stand in another document than
the one searched; a match says which tag led to which key and to which of its texts.
-/

namespace ThreatModel

structure ReferenceMatch where
  tag : String
  key : KeyId
  text : String
deriving DecidableEq, Repr

/-- Where a tag points, in the words of the document searched. -/
structure ReferenceTarget where
  table : String
  column : String
  comparison : String
deriving DecidableEq, Repr

namespace ReferenceTarget

def toJson (target : ReferenceTarget) : Json :=
  .object [("table", .string target.table), ("column", .string target.column),
    ("match-type", .string target.comparison)]

end ReferenceTarget

namespace Document

/-- The value of the first key that carries a data tag. -/
def section? (doc : Document) (dataTag : String) : Option (KeyId × Item) :=
  doc.findTagged? doc.root dataTag

/-- What a tag resolves to for a value, text by text below the column's keys. -/
def matchesOf (doc : Document) (custom : Option Comparison) (value : String)
    (tag : ReferenceTag) : List ReferenceMatch :=
  match doc.section? tag.dataTag with
  | none => []
  | some (_, region) =>
      (doc.findAllTagged region tag.fieldTag).flatMap fun (key, item) =>
        (item.texts.filter (tag.accepts custom value key)).map fun text => ⟨tag.text, key, text⟩

/-- Everything that the tags of a key resolve to for a value, each match once. -/
def references (doc : Document) (family : String) (key : Key) (value : String)
    (custom : Option Comparison) : List ReferenceMatch :=
  ((ReferenceTag.ofKey key family).flatMap (doc.matchesOf custom value)).eraseDups

/-- The data tag of the section that a row belongs to, by its first key. -/
def rowDataTag? (doc : Document) (row : Item) : Option String :=
  row.entries.head?.bind fun entry => doc.dataTag? entry.1

/-- Some text of the tag's column in a row is accepted. -/
def resolvesIn (doc : Document) (row : Item) (custom : Option Comparison) (value : String)
    (tag : ReferenceTag) : Bool :=
  (doc.findAllTagged row tag.fieldTag).any fun (key, item) =>
    item.texts.any (tag.accepts custom value key)

/-- The first tag of a key that resolves within a row, among those that name the row's section. With
`onlyCustom`, tags of built-in comparisons do not count. -/
def rowReference? (doc : Document) (row : Item) (family : String) (key : Key) (value : String)
    (custom : Option Comparison) (onlyCustom : Bool) : Option String :=
  (((ReferenceTag.ofKey key family).filter fun tag =>
      !(onlyCustom && tag.isBuiltin) && doc.rowDataTag? row == some tag.dataTag).find?
    (doc.resolvesIn row custom value)).map (·.text)

/-- Where a tag points; what the document does not hold is named by its tag. -/
def targetOf (doc : Document) (tag : ReferenceTag) : ReferenceTarget :=
  let found := doc.section? tag.dataTag
  let column := found.bind fun entry => doc.findTagged? entry.2 tag.fieldTag
  ⟨(found.map fun entry => (doc.key entry.1).section?.getD (doc.key entry.1).name).getD tag.dataTag,
    (column.map fun entry => doc.label entry.1).getD tag.fieldTag, tag.comparison⟩

/-- Where the tags of a key point. -/
def targets (doc : Document) (family : String) (key : Key) : List ReferenceTarget :=
  (ReferenceTag.ofKey key family).map doc.targetOf

end Document

end ThreatModel
