import ThreatModel.Document.Key
import ThreatModel.Settings.Source

/-!
Keys as JSON. The written form leaves out tags and properties where there are none; reading takes
tags as they stand, so that a repeated one stays.
-/

namespace ThreatModel.Key

def toJson (key : Key) : Json :=
  .object (("name", .string key.name) ::
    (if key.tags.isEmpty then [] else [("tags", .ofStrings key.tags)]) ++
    (if key.properties.isEmpty then [] else [("properties", .object key.properties.entries)]))

/-- Read a key back. Unknown members are passed over. -/
def ofJson? (value : Json) : Option Key := do
  let record ← (Source.json value).record? ["name", "tags", "properties"] false
  let name ← Source.required? record "name" Source.string?
  let tags ← Source.withDefault? record "tags" Source.strings? []
  let properties ← Source.withDefault? record "properties" Source.members? []
  some ⟨name, tags, .ofList (properties.map fun property => (property.1, property.2.settle))⟩

end ThreatModel.Key
