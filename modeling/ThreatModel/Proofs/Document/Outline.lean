import ThreatModel.Proofs.Document.Plain
import ThreatModel.Proofs.Properties
import ThreatModel.Reference.Resolve

/-!
The outline of a document: what rules read of it. It has the shape, names, tags and texts of the
document, the names of its sections and columns, and the properties asked for; provenance and all other
properties are gone. Every look-up answers the same for a document and its outline.
-/

namespace ThreatModel

namespace Key

/-- Look-ups heed a property: it is asked for, or it is the name of a section or a column, which counts
only as a string. -/
def heeds (kept : List String) (name : String) (value : Json) : Bool :=
  kept.contains name ||
    (name == Property.sectionName || name == Property.columnName) && value.asString?.isSome

/-- The key with the properties that look-ups heed. -/
def outline (kept : List String) (key : Key) : Key :=
  { key with properties := key.properties.keep (heeds kept) }

variable {kept : List String} {key : Key} {name : String}

@[simp] theorem name_outline : (key.outline kept).name = key.name := rfl

@[simp] theorem tags_outline : (key.outline kept).tags = key.tags := rfl

@[simp] theorem hasTag_outline {tag : String} : (key.outline kept).hasTag tag = key.hasTag tag := rfl

@[simp] theorem dataTags_outline : (key.outline kept).dataTags = key.dataTags := rfl

@[simp] theorem tagsWithPrefix_outline {beginning : String} :
    (key.outline kept).tagsWithPrefix beginning = key.tagsWithPrefix beginning := rfl

@[simp] theorem ofKey_outline {family : String} :
    ReferenceTag.ofKey (key.outline kept) family = ReferenceTag.ofKey key family := rfl

theorem property?_outline :
    (key.outline kept).property? name = (key.property? name).filter (heeds kept name) :=
  Properties.get?_keep _ _ _

theorem property?_outline_of_mem (asked : name ∈ kept) :
    (key.outline kept).property? name = key.property? name := by
  rw [property?_outline]
  cases key.property? name <;> simp [Option.filter, heeds, asked]

theorem stringProperty?_outline
    (naming : name = Property.sectionName ∨ name = Property.columnName) :
    (key.outline kept).stringProperty? name = key.stringProperty? name := by
  rw [stringProperty?, stringProperty?, property?_outline]
  cases key.property? name with
  | none => rfl
  | some value =>
      cases read : value.asString? with
      | none => cases heeded : heeds kept name value <;> simp [Option.filter, heeded, read]
      | some text => simp [Option.filter, heeds, naming, read]

@[simp] theorem section?_outline : (key.outline kept).section? = key.section? :=
  stringProperty?_outline (.inl rfl)

@[simp] theorem label_outline : (key.outline kept).label = key.label :=
  congrArg (Option.getD · key.name) (stringProperty?_outline (.inr rfl))

/-- Writing what is not heeded leaves the outline as it is. -/
theorem outline_setProperty (value : Json) (unheeded : ∀ value, heeds kept name value = false) :
    (key.setProperty name value).outline kept = key.outline kept := by
  rw [outline, outline, setProperty, Properties.keep_put _ _ unheeded]

end Key

namespace Document

/-- The document without provenance, and without the properties that look-ups do not heed. -/
def outline (kept : List String) (doc : Document) : Document where
  source := doc.source.skeleton
  root := doc.root.plain
  nodes := doc.nodes.map Item.plain
  places := doc.places.map Place.plain
  keys := doc.keys.map (Key.outline kept)
  root_eq := by rw [Node.number_skeleton, doc.root_eq]
  nodes_eq := by rw [doc.nodes_eq, Item.subtrees_plain, List.map_toArray]
  places_eq := by rw [doc.places_eq, Item.places_plain, List.map_toArray]
  keys_size := by rw [Array.size_map, doc.keys_size, Node.length_keys_skeleton]

variable {kept : List String} {doc : Document} {id : KeyId} {tag family value : String}

@[simp] theorem root_outline : (doc.outline kept).root = doc.root.plain := rfl

@[simp] theorem keys_outline : (doc.outline kept).keys = doc.keys.map (Key.outline kept) := rfl

@[simp] theorem key_outline : (doc.outline kept).key id = (doc.key id).outline kept := by
  rw [key, key, keys_outline, Array.getElem?_map]
  cases doc.keys[id.index]? <;> rfl

@[simp] theorem place_outline : (doc.outline kept).place id = (doc.place id).plain := by
  rw [place, place, outline, Array.getElem?_map]
  cases doc.places[id.index]? <;> rfl

@[simp] theorem valueOf_outline : (doc.outline kept).valueOf id = (doc.valueOf id).plain := by
  rw [valueOf, valueOf, place_outline, Place.plain]

@[simp] theorem ownerOf_outline : (doc.outline kept).ownerOf id = doc.ownerOf id := by
  rw [ownerOf, ownerOf, place_outline, Place.plain]

@[simp] theorem ancestry_outline : (doc.outline kept).ancestry id = doc.ancestry id := by
  rw [ancestry, ancestry, place_outline, Place.plain]

@[simp] theorem entriesOf_outline (node : NodeId) :
    (doc.outline kept).entriesOf node = (doc.entriesOf node).map Item.plainEntry := by
  rw [entriesOf, entriesOf, node?, node?, outline, Array.getElem?_map]
  cases doc.nodes[node.index]? <;> simp

@[simp] theorem keyIds_outline : (doc.outline kept).keyIds = doc.keyIds := by
  rw [keyIds, keyIds, keys_outline, Array.size_map]

@[simp] theorem keyText?_outline : (doc.outline kept).keyText? = doc.keyText? := by
  funext id
  simp [keyText?]

@[simp] theorem textsOf_outline : (doc.outline kept).textsOf id = doc.textsOf id := by
  simp [textsOf]

@[simp] theorem label_outline : (doc.outline kept).label id = doc.label id := by
  simp [label]

@[simp] theorem findTagged?_outline (node : Item) :
    (doc.outline kept).findTagged? node.plain tag =
      (doc.findTagged? node tag).map Item.plainEntry := by
  simp [findTagged?]

@[simp] theorem findAllTagged_outline (node : Item) :
    (doc.outline kept).findAllTagged node.plain tag =
      (doc.findAllTagged node tag).map Item.plainEntry := by
  simp [findAllTagged]

@[simp] theorem sectionName?_outline :
    (doc.outline kept).sectionName? id = doc.sectionName? id := by
  simp [sectionName?, sectionKey?]

@[simp] theorem dataTag?_outline : (doc.outline kept).dataTag? id = doc.dataTag? id := by
  simp [dataTag?]

@[simp] theorem section?_outline :
    (doc.outline kept).section? tag = (doc.section? tag).map Item.plainEntry := by
  simp [section?]

theorem matchesOf_outline (custom : Option Comparison) (tag : ReferenceTag) :
    (doc.outline kept).matchesOf custom value tag = doc.matchesOf custom value tag := by
  rw [matchesOf, matchesOf, section?_outline]
  cases doc.section? tag.dataTag with
  | none => rfl
  | some entry => simp [List.flatMap_map]

@[simp] theorem references_outline (key : Key) (custom : Option Comparison) :
    (doc.outline kept).references family key value custom =
      doc.references family key value custom := by
  rw [references, references, funext (matchesOf_outline custom)]

@[simp] theorem references_key_outline (key : Key) (custom : Option Comparison) :
    doc.references family (key.outline kept) value custom =
      doc.references family key value custom := rfl

theorem targetOf_outline (tag : ReferenceTag) : (doc.outline kept).targetOf tag = doc.targetOf tag := by
  rw [targetOf, targetOf, section?_outline]
  cases doc.section? tag.dataTag with
  | none => rfl
  | some entry => simp [Function.comp_def]

@[simp] theorem targets_outline (key : Key) :
    (doc.outline kept).targets family key = doc.targets family key := by
  rw [targets, targets, funext targetOf_outline]

@[simp] theorem targets_key_outline (key : Key) :
    doc.targets family (key.outline kept) = doc.targets family key := rfl

end Document

namespace RowIndex

variable (kept : List String)

@[simp] theorem build_outline (doc : Document) : build (doc.outline kept) = build doc := by
  simp [build, Item.rowIds_plain, Item.namedRows_plain]

@[simp] theorem label?_outline (index : RowIndex) (doc : Document) (key : KeyId) :
    index.label? (doc.outline kept) key = index.label? doc key := by
  simp [label?, identifierFor?]

end RowIndex

end ThreatModel
