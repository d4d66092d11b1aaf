import ThreatModel.Document.Key
import ThreatModel.Settings.Source

/-!
Conventions: the tags and phrases by which all rules find their way in a document. Each has a value
where the configuration gives none.
-/

namespace ThreatModel

/-- The tags of the asset table and of its columns. -/
structure AssetTags where
  data : String
  name : String
  kind : String
  storage : String
deriving DecidableEq, Repr

/-- The tags of the threat table and of its columns. -/
structure ThreatTags where
  data : String
  component : String
  /-- The column of the assets that a threat applies to. -/
  assets : String
deriving DecidableEq, Repr

/-- How a threat refers to a group of assets. -/
structure GroupPhrases where
  /-- Before the name of a component. -/
  inComponent : List String
  /-- Before the name of a storage location. -/
  storedIn : List String
deriving DecidableEq, Repr

structure Conventions where
  /-- The family of references within a document. -/
  documentFamily : String
  /-- The family of references into the template. -/
  templateFamily : String
  /-- The family of tags that ask for unique values. -/
  uniqueFamily : String
  /-- Tags of keys that need no value. -/
  mandatoryExceptions : List String
  assets : AssetTags
  threats : ThreatTags
  groups : GroupPhrases
deriving DecidableEq, Repr

def AssetTags.standard : AssetTags :=
  ⟨"assets-data", "asset-name", "asset-type", "storage-location"⟩

def ThreatTags.standard : ThreatTags :=
  ⟨"threats-data", "threat-component", "threat-assets"⟩

def GroupPhrases.standard : GroupPhrases :=
  ⟨["all assets in"], ["all assets stored in"]⟩

def Conventions.standard : Conventions :=
  ⟨"ref", "template-ref", "unique", [Tag.notMandatory], .standard, .standard, .standard⟩

namespace AssetTags

def read? (source : Source) : Option AssetTags := do
  let record ← source.record? ["data", "name", "type", "storage"] true
  let field := fun name default => Source.withDefault? record name Source.string? default
  some ⟨← field "data" standard.data, ← field "name" standard.name, ← field "type" standard.kind,
    ← field "storage" standard.storage⟩

def toJson (tags : AssetTags) : Json :=
  .object [("data", .string tags.data), ("name", .string tags.name), ("type", .string tags.kind),
    ("storage", .string tags.storage)]

end AssetTags

namespace ThreatTags

def read? (source : Source) : Option ThreatTags := do
  let record ← source.record? ["data", "component", "assets"] true
  let field := fun name default => Source.withDefault? record name Source.string? default
  some ⟨← field "data" standard.data, ← field "component" standard.component,
    ← field "assets" standard.assets⟩

def toJson (tags : ThreatTags) : Json :=
  .object [("data", .string tags.data), ("component", .string tags.component),
    ("assets", .string tags.assets)]

end ThreatTags

namespace GroupPhrases

def read? (source : Source) : Option GroupPhrases := do
  let record ← source.record? ["in-component", "stored-in"] true
  let field := fun name default => Source.withDefault? record name Source.strings? default
  some ⟨← field "in-component" standard.inComponent, ← field "stored-in" standard.storedIn⟩

def toJson (phrases : GroupPhrases) : Json :=
  .object [("in-component", .ofStrings phrases.inComponent),
    ("stored-in", .ofStrings phrases.storedIn)]

end GroupPhrases

namespace Conventions

def read? (source : Source) : Option Conventions := do
  let record ← source.record?
    ["reference-prefix", "template-reference-prefix", "unique-prefix", "mandatory-exceptions",
      "assets", "threats", "grouped"] true
  let word := fun name default => Source.withDefault? record name Source.string? default
  some {
    documentFamily := ← word "reference-prefix" standard.documentFamily
    templateFamily := ← word "template-reference-prefix" standard.templateFamily
    uniqueFamily := ← word "unique-prefix" standard.uniqueFamily
    mandatoryExceptions :=
      ← Source.withDefault? record "mandatory-exceptions" Source.strings?
        standard.mandatoryExceptions
    assets := ← Source.withDefault? record "assets" AssetTags.read? .standard
    threats := ← Source.withDefault? record "threats" ThreatTags.read? .standard
    groups := ← Source.withDefault? record "grouped" GroupPhrases.read? .standard }

def ofJson? (value : Json) : Option Conventions := read? (.json value)

def toJson (conventions : Conventions) : Json :=
  .object [("reference-prefix", .string conventions.documentFamily),
    ("template-reference-prefix", .string conventions.templateFamily),
    ("unique-prefix", .string conventions.uniqueFamily),
    ("mandatory-exceptions", .ofStrings conventions.mandatoryExceptions),
    ("assets", conventions.assets.toJson), ("threats", conventions.threats.toJson),
    ("grouped", conventions.groups.toJson)]

end Conventions

end ThreatModel
