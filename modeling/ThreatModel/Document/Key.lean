import ThreatModel.Properties
import ThreatModel.Json.Value

/-!
Keys of mappings. A key is known by its name alone; its tags say what the field means, and its
properties hold annotations. Tags keep the order they were added in and repeat only when a key is
read back from JSON that repeats them.
-/

namespace ThreatModel

structure Key where
  name : String
  tags : List String
  properties : Properties Json
deriving Inhabited

namespace Tag

/-- Marks the field that names its row. -/
def rowIdentifier : String := "row-identifier"

/-- Keeps the default tags of a key's name away from the key. -/
def noDefaults : String := "no-defaults"

/-- Marks a field that needs a value. -/
def mandatory : String := "mandatory"

/-- Marks a field that may stay empty. -/
def notMandatory : String := "not-mandatory"

/-- The end of the tags that mark sections. -/
def dataSuffix : String := "-data"

/-- The beginning of the tags that call for validators. -/
def validatePrefix : String := "validate-"

end Tag

namespace Property

/-- The name of a section as people know it. -/
def sectionName : String := "section"

/-- The header of the column a key stands in. -/
def columnName : String := "colname"

/-- Marks template values that are allowed as they are. -/
def preApproved : String := "templatePreApproved"

/-- The threats that cover an asset. -/
def coveringThreats : String := "covering-threats"

/-- What the validators of a field said. -/
def validation : String := "validation"

end Property

/-- `beginning` starts `text`. -/
def startsWith (text beginning : String) : Bool :=
  beginning.toList.isPrefixOf text.toList

/-- `ending` ends `text`. -/
def endsWith (text ending : String) : Bool :=
  ending.toList.isSuffixOf text.toList

namespace Key

/-- A key without tags. -/
def ofName (name : String) : Key := ⟨name, [], .empty⟩

def hasTag (key : Key) (tag : String) : Bool := key.tags.contains tag

/-- Add a tag, unless the key has it. -/
def addTag (key : Key) (tag : String) : Key :=
  if key.hasTag tag then key else { key with tags := key.tags ++ [tag] }

/-- Add tags one after the other. -/
def addTags (key : Key) (tags : List String) : Key :=
  tags.foldl addTag key

/-- Add a tag to a key, and count it if the key did not have it. -/
def addTagCounted (done : Key × Nat) (tag : String) : Key × Nat :=
  if done.1.hasTag tag then done else (done.1.addTag tag, done.2 + 1)

/-- Add tags one after the other, and count those that the key did not have. -/
def addTagsCounted (key : Key) (tags : List String) : Key × Nat :=
  tags.foldl addTagCounted (key, 0)

/-- A key with the tags given, each once. -/
def withTags (name : String) (tags : List String) : Key :=
  (ofName name).addTags tags

def tagsWithPrefix (key : Key) (beginning : String) : List String :=
  key.tags.filter (startsWith · beginning)

/-- The tags that mark the key as a section. -/
def dataTags (key : Key) : List String :=
  key.tags.filter (endsWith · Tag.dataSuffix)

def setProperty (key : Key) (name : String) (value : Json) : Key :=
  { key with properties := key.properties.put name value }

/-- Put string properties, as provenance has them. -/
def mergeProperties (key : Key) (properties : Properties String) : Key :=
  { key with
    properties := key.properties.putAll (properties.entries.map fun entry =>
      (entry.1, .string entry.2)) }

def property? (key : Key) (name : String) : Option Json :=
  key.properties.get? name

/-- A property that holds a string. -/
def stringProperty? (key : Key) (name : String) : Option String :=
  (key.property? name).bind Json.asString?

def section? (key : Key) : Option String := key.stringProperty? Property.sectionName

def columnName? (key : Key) : Option String := key.stringProperty? Property.columnName

/-- What the field is called in messages: its column's header, or else its name. -/
def label (key : Key) : String := key.columnName?.getD key.name

end Key

end ThreatModel
