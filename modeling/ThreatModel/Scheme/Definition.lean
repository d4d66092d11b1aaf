import ThreatModel.Document.Key
import ThreatModel.Settings.Source

/-!
Schemes: how a value is got from content. `getData` selects it, `mapData` builds keys and values
from it, and `output` finishes it. Reading a scheme refuses names that mean nothing; writing one
leaves out what is absent.
-/

namespace ThreatModel

/-- A query by name, with its parameters. -/
structure QuerySpec where
  name : String
  params : List (String × Json)
deriving Inhabited

/-- One query, or several in a row. -/
inductive GetData
  | one (query : QuerySpec)
  | many (queries : List QuerySpec)
deriving Inhabited

def GetData.queries : GetData → List QuerySpec
  | .one query => [query]
  | .many queries => queries

/-- A key to be built: a name alone, or a name with a section and tags. -/
inductive KeySpec
  | plain (name : String)
  | full (name : String) (section? : Option String) (tags : List String)
deriving DecidableEq, Inhabited

/-- The key that an entry declares. -/
def KeySpec.toKey : KeySpec → Key
  | .plain name => .ofName name
  | .full name section? tags =>
      let key := Key.withTags name tags
      match section? with
      | some title => key.setProperty Property.sectionName (.string title)
      | none => key

inductive OutputShape
  | list
  | dict
deriving DecidableEq, Inhabited

structure OutputSpec where
  shape : Option OutputShape
  /-- Post-processors with their settings, in order of application. -/
  processors : List (String × Json)
deriving Inhabited

structure ValueDef where
  getData : GetData
  mapData : Option (List (KeySpec × ValueDef))
  output : Option OutputSpec

namespace ValueDef

/-- Passes its input on. -/
def passing : ValueDef := ⟨.many [], none, none⟩

instance : Inhabited ValueDef := ⟨passing⟩

/-- A query object: the type and everything else as parameters. -/
def readQuery? (source : Source) : Option QuerySpec := do
  let members ← source.settled.members?
  let types := members.filter (·.1 == "type")
  let name ← match types with
    | [(_, value)] => value.settle.asString?
    | _ => none
  some ⟨name, Source.settleEntries [] (members.filter (·.1 != "type"))⟩

/-- A query object or a list of them. -/
def readGetData? (source : Source) : Option GetData :=
  match source.settled.items? with
  | some items => (items.mapM readQuery?).map .many
  | none => (readQuery? source).map .one

/-- A key: a name, or an object whose other members than these are passed over. -/
def readKey? (source : Source) : Option KeySpec :=
  match source.settle.asString? with
  | some name => some (.plain name)
  | none => do
      let members ← source.settled.members?
      let record ← (Source.map members).record? ["name", "section", "tags"] false
      let name ← Source.required? record "name" Source.string?
      let title ← Source.withDefault? record "section" (Source.optional? Source.string?) none
      let tags ← Source.withDefault? record "tags" Source.strings? []
      some (.full name title tags)

/-- Names with values of any kind, in order. -/
def readNamed? (source : Source) : Option (List (String × Json)) :=
  source.members?.map (Source.settleEntries [])

def readOutput? (source : Source) : Option OutputSpec := do
  let record ← source.record? ["type", "post-processor"] true
  let shape ← Source.withDefault? record "type"
    (Source.optional? (Source.choice? [("list", OutputShape.list), ("dict", OutputShape.dict)]))
    none
  let processors ← Source.withDefault? record "post-processor" readNamed? []
  some ⟨shape, processors⟩

/-- A definition whose definitions nest less deep than `fuel`. -/
def read? : Nat → Source → Option ValueDef
  | 0, _ => none
  | fuel + 1, source => do
      let record ← source.record? ["get-data", "map-data", "output-data"] true
      let getData ← Source.withDefault? record "get-data" readGetData? (.many [])
      let mapData ← Source.withDefault? record "map-data"
        (Source.optional? (Source.listOf? fun entry => do
          let record ← entry.record? ["key", "value"] true
          let key ← Source.required? record "key" readKey?
          let value ← Source.withDefault? record "value" (read? fuel) passing
          some (key, value))) none
      let output ← Source.withDefault? record "output-data" (Source.optional? readOutput?) none
      some ⟨getData, mapData, output⟩

/-- Read a scheme. -/
def ofSource? (source : Source) : Option ValueDef :=
  read? (source.height + 1) source

def ofJson? (value : Json) : Option ValueDef := ofSource? (.json value)

def queryToJson (query : QuerySpec) : Json :=
  .object (("type", .string query.name) :: query.params)

def getDataToJson : GetData → Json
  | .one query => queryToJson query
  | .many queries => .array (queries.map queryToJson)

def keyToJson : KeySpec → Json
  | .plain name => .string name
  | .full name section? tags =>
      .object (("name", .string name) ::
        ((section?.map fun title => ("section", .string title)).toList ++
          if tags.isEmpty then [] else [("tags", .ofStrings tags)]))

def outputToJson (output : OutputSpec) : Json :=
  .object ((output.shape.map fun shape =>
      ("type", Json.string (match shape with | .list => "list" | .dict => "dict"))).toList ++
    if output.processors.isEmpty then [] else [("post-processor", .object output.processors)])

mutual

def toJson : ValueDef → Json
  | ⟨getData, mapData, output⟩ =>
      .object (("get-data", getDataToJson getData) ::
        ((mapDataToJson mapData).map fun entries => ("map-data", .array entries)).toList ++
        (output.map fun output => ("output-data", outputToJson output)).toList)

def mapDataToJson : Option (List (KeySpec × ValueDef)) → Option (List Json)
  | none => none
  | some entries => some (entriesToJson entries)

def entriesToJson : List (KeySpec × ValueDef) → List Json
  | [] => []
  | (key, value) :: rest =>
      .object [("key", keyToJson key), ("value", toJson value)] :: entriesToJson rest

end

end ValueDef

end ThreatModel
