import ThreatModel.Document.Basic

/-!
Default tags by key name, and their assignment to a document. Keys marked `no-defaults` are left
alone, and a tag that a key has is not added again.
-/

namespace ThreatModel

/-- The default tags of each key name. -/
structure TagTable where
  tags : Properties (List String)
deriving DecidableEq, Inhabited

namespace TagTable

def empty : TagTable := ⟨.empty⟩

def tagsFor (table : TagTable) (name : String) : List String :=
  (table.tags.get? name).getD []

/-- Append default tags to those of a name. -/
def insert (table : TagTable) (name : String) (tags : List String) : TagTable :=
  ⟨table.tags.put name (table.tagsFor name ++ tags)⟩

def size (table : TagTable) : Nat := table.tags.entries.length

/-- A key with the default tags of its name. -/
def tagged (table : TagTable) (key : Key) : Key :=
  if key.hasTag Tag.noDefaults then key else key.addTags (table.tagsFor key.name)

end TagTable

namespace Document

/-- Add the default tags to every key. -/
def assignTags (doc : Document) (table : TagTable) : Document :=
  { doc with
    keys := doc.keys.map table.tagged
    keys_size := by simpa using doc.keys_size }

/-- Put another key in the place of a key. -/
def setKey (doc : Document) (id : KeyId) (key : Key) : Document :=
  { doc with
    keys := doc.keys.setIfInBounds id.index key
    keys_size := by simpa using doc.keys_size }

/-- Add its default tags to one key, and count them. -/
def tagKeyCounted (table : TagTable) (done : Document × Nat) (id : KeyId) : Document × Nat :=
  let key := done.1.key id
  if key.hasTag Tag.noDefaults then done
  else
    let tagged := key.addTagsCounted (table.tagsFor key.name)
    (done.1.setKey id tagged.1, done.2 + tagged.2)

/-- Add the default tags key by key, and count the tags that were added. -/
def assignTagsCounted (doc : Document) (table : TagTable) : Document × Nat :=
  doc.keyIds.foldl (tagKeyCounted table) (doc, 0)

/-- How many tags the keys have together. -/
def tagCount (doc : Document) : Nat :=
  (doc.keys.toList.flatMap (·.tags)).length

end Document

end ThreatModel
