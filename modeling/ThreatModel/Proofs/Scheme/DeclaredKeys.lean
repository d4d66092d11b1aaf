import Mathlib.Data.List.Forall2
import ThreatModel.Proofs.Document.DefaultTags
import ThreatModel.Proofs.Document.Lossless
import ThreatModel.Proofs.Properties
import ThreatModel.Scheme.Engine

/-!
Declared keys. Each entry of a scheme builds one key, under its name and with its tags. The provenance of a
text joins the properties of the key and replaces those of the same name, so a section that the content
brings hides the declared one.
-/

namespace ThreatModel

namespace Key

theorem property?_mergeProperties (key : Key) (properties : Properties String) (name : String) :
    (key.mergeProperties properties).property? name =
      ((properties.get? name).map .string).or (key.property? name) := by
  rw [property?, mergeProperties, Properties.get?_putAll, Properties.lastPut?_map]
  rfl

theorem tags_withTags (name : String) (tags : List String) : (withTags name tags).tags = tags.eraseDups := by
  simp [withTags, addTags_eq, ofName, lacking, hasTag]

theorem property?_setProperty (key : Key) (name other : String) (value : Json) :
    (key.setProperty name value).property? other = if name = other then some value else key.property? other :=
  Properties.get?_put key.properties name other value

end Key

namespace Text

variable {leaf : Text}

theorem provenance_eq_empty (nowhere : ¬ leaf.hasProvenance) : leaf.provenance = .empty :=
  Properties.eq_empty_of_isEmpty (by simpa [hasProvenance] using nowhere)

theorem plain_eq_self (nowhere : ¬ leaf.hasProvenance) : leaf.plain = leaf := by
  have noProvenance := provenance_eq_empty nowhere
  cases leaf
  cases noProvenance
  rfl

end Text

/-- The provenance of a text; other nodes have none. -/
def Node.provenance : Node → Properties String
  | .text leaf => leaf.provenance
  | _ => .empty

/-- A node without the provenance of its own text. -/
def Node.unlocated : Node → Node
  | .text leaf => .text leaf.plain
  | node => node

namespace KeySpec

def name : KeySpec → String
  | .plain name => name
  | .full name _ _ => name

def tags : KeySpec → List String
  | .plain _ => []
  | .full _ _ tags => tags

def section? : KeySpec → Option String
  | .plain _ => none
  | .full _ title _ => title

theorem toKey_full (name : String) (title : Option String) (tags : List String) :
    (KeySpec.full name title tags).toKey =
      match title with
      | some title => (Key.withTags name tags).setProperty Property.sectionName (.string title)
      | none => Key.withTags name tags := rfl

theorem name_toKey (spec : KeySpec) : spec.toKey.name = spec.name := by
  cases spec with
  | plain name => rfl
  | full name title tags =>
      have tagged : (Key.withTags name tags).name = name := by rw [Key.withTags, Key.addTags_eq]; rfl
      cases title <;> exact tagged

theorem tags_toKey (spec : KeySpec) : spec.toKey.tags = spec.tags.eraseDups := by
  cases spec with
  | plain name => rfl
  | full name title tags => cases title <;> exact Key.tags_withTags name tags

/-- A declared key has no property but its section. -/
theorem property?_toKey (spec : KeySpec) (name : String) :
    spec.toKey.property? name =
      if Property.sectionName = name then spec.section?.map .string else none := by
  cases spec with
  | plain own => simp [toKey, Key.ofName, Key.property?, Properties.empty, Properties.get?, section?]
  | full own title tags =>
      have bare : (Key.withTags own tags).property? name = none := by
        rw [Key.withTags, Key.addTags_eq]
        rfl
      cases title with
      | none => rw [toKey_full, bare]; simp [section?]
      | some title => rw [toKey_full, Key.property?_setProperty, bare]; rfl

/-- The key for a value: the declared one, with the provenance of the value. -/
def keyFor (spec : KeySpec) (value : Node) : Key := spec.toKey.mergeProperties value.provenance

theorem property?_keyFor (spec : KeySpec) (value : Node) (name : String) :
    (spec.keyFor value).property? name = ((value.provenance.get? name).map .string).or
      (if Property.sectionName = name then spec.section?.map .string else none) := by
  rw [keyFor, Key.property?_mergeProperties, property?_toKey]

/-- The section of a built key is that of the content, if it has one, and else the declared one. -/
theorem section?_keyFor (spec : KeySpec) (value : Node) :
    (spec.keyFor value).section? = (value.provenance.get? Property.sectionName).or spec.section? := by
  rw [Key.section?, Key.stringProperty?, property?_keyFor, if_pos rfl]
  cases value.provenance.get? Property.sectionName with
  | some title => rfl
  | none => cases spec.section? <;> rfl

end KeySpec

/-- An entry of a mapping as a key specification and a parsed value determine it. -/
structure BuiltFrom (spec : KeySpec) (parsed : Node) (entry : Key × Node) : Prop where
  name : entry.1.name = spec.name
  tags : entry.1.tags = spec.tags.eraseDups
  located : ∀ leaf, parsed = .text leaf → leaf.hasProvenance →
    entry.2 = .text (.ofString leaf.value) ∧ ∀ name value, (name, value) ∈ leaf.provenance.entries →
      entry.1.property? name = some (.string value)
  other : (∀ leaf, parsed = .text leaf → ¬ leaf.hasProvenance) → entry.2 = parsed
  declared : ∀ name, parsed.provenance.get? name = none → entry.1.property? name =
    if Property.sectionName = name then spec.section?.map .string else none
  shown : ∀ title, spec.section? = some title →
    (entry.1.section? = some title ↔
      ∀ other, parsed.provenance.get? Property.sectionName = some other → other = title)

namespace Registry

variable {registry : Registry} {entries : List (KeySpec × ValueDef)} {input : Node}

theorem insertValue_eq (done : Mapping) (spec : KeySpec) (value : Node) :
    insertValue done spec value = Mapping.insert done (spec.keyFor value) value.unlocated := by
  cases value with
  | null | list | map => rfl
  | text leaf =>
      by_cases located : leaf.hasProvenance
      · rw [insertValue, if_pos located]
        rfl
      · rw [insertValue, if_neg located, KeySpec.keyFor, Node.provenance, Text.provenance_eq_empty located,
          Node.unlocated, Text.plain_eq_self located]
        rfl

/-- The entry that one declaration builds from content. -/
def builtEntry (registry : Registry) (input : Node) (entry : KeySpec × ValueDef) : Key × Node :=
  (entry.1.keyFor (registry.interpret entry.2 input), (registry.interpret entry.2 input).unlocated)

theorem interpretEntries_eq_foldl (entries : List (KeySpec × ValueDef)) (done : Mapping) :
    registry.interpretEntries entries done input =
      (entries.map (registry.builtEntry input)).foldl
        (fun done entry => Mapping.insert done entry.1 entry.2) done := by
  induction entries generalizing done with
  | nil => rw [interpretEntries]; rfl
  | cons entry rest ih =>
      rw [interpretEntries, ih, insertValue_eq]
      rfl

theorem interpretEntries_eq_map (distinct : (entries.map fun entry => entry.1.name).Nodup) :
    registry.interpretEntries entries [] input = entries.map (registry.builtEntry input) := by
  have sameNames : Mapping.names (entries.map (registry.builtEntry input)) =
      entries.map fun entry => entry.1.name := by
    rw [Mapping.names, List.map_map]
    exact List.map_congr_left fun entry _ => entry.1.name_toKey
  rw [interpretEntries_eq_foldl]
  exact Mapping.ofEntries_of_nodup (by rwa [sameNames])

theorem builtFrom_builtEntry (registry : Registry) (input : Node) (entry : KeySpec × ValueDef) :
    BuiltFrom entry.1 (registry.interpret entry.2 input) (registry.builtEntry input entry) where
  name := entry.1.name_toKey
  tags := entry.1.tags_toKey
  located leaf isText located := by
    rw [builtEntry, isText]
    refine ⟨rfl, fun name value listed => ?_⟩
    rw [KeySpec.property?_keyFor, Node.provenance, Properties.mem_entries_iff.mp listed]
    rfl
  other unlocated := by
    rw [builtEntry]
    cases parsed : registry.interpret entry.2 input with
    | null | list | map => rfl
    | text leaf => exact congrArg Node.text (Text.plain_eq_self (unlocated leaf parsed))
  declared name absent := by
    rw [builtEntry, KeySpec.property?_keyFor, absent]
    rfl
  shown title isDeclared := by
    rw [builtEntry, KeySpec.section?_keyFor, isDeclared]
    cases (registry.interpret entry.2 input).provenance.get? Property.sectionName <;> simp

/-- Declarations of distinct names build one entry each, in their order. A declared section shows unless
the text under it comes with another one. -/
theorem builds_declared_keys (registry : Registry) (entries : List (KeySpec × ValueDef)) (input : Node)
    (distinct : (entries.map fun entry => entry.1.name).Nodup) :
    List.Forall₂ (fun entry built => BuiltFrom entry.1 (registry.interpret entry.2 input) built)
      entries (registry.interpretEntries entries [] input) := by
  rw [interpretEntries_eq_map distinct, List.forall₂_map_right_iff, List.forall₂_same]
  intro entry _
  exact registry.builtFrom_builtEntry input entry

/-- Assets, under a section of their own. -/
def assetsEntry : KeySpec × ValueDef :=
  (.full "assets" (some "Assets") ["assets-data", "assets-data"],
    ⟨.one ⟨"attribute", [("name", .string "a")]⟩, none, none⟩)

def titleEntry : KeySpec × ValueDef :=
  (.plain "title", ⟨.one ⟨"attribute", [("name", .string "t")]⟩, none, none⟩)

/-- Assets found at a place, without a title. -/
def foundAssets (place : List (String × Json)) : Node :=
  .ofJson (.object [("a", .object (("#text", .string "DB") :: place)), ("t", .null)])

theorem builds_declared_keys_located :
    [assetsEntry.1.name, titleEntry.1.name].Nodup ∧
    ∃ assets title : Key,
      builtin.interpretEntries [assetsEntry, titleEntry] [] (foundAssets [("location", .string "p1")]) =
        [(assets, .text (.ofString "DB")), (title, .null)] ∧
      assets.name = "assets" ∧ assets.tags = ["assets-data"] ∧
      assets.property? "location" = some (.string "p1") ∧ assets.section? = some "Assets" ∧
      title.name = "title" ∧ title.tags = [] ∧ ∀ name, title.property? name = none := by
  have distinct : [assetsEntry.1.name, titleEntry.1.name].Nodup := by decide
  have assetsParsed : builtin.interpret assetsEntry.2 (foundAssets [("location", .string "p1")]) =
      .text ⟨"DB", .ofList [("location", "p1")]⟩ := rfl
  have titleParsed : builtin.interpret titleEntry.2 (foundAssets [("location", .string "p1")]) = .null := rfl
  obtain ⟨assets, _, ofAssets, ofOthers, listed⟩ := List.forall₂_cons_left_iff.mp
    (builds_declared_keys builtin [assetsEntry, titleEntry] (foundAssets [("location", .string "p1")])
      distinct)
  obtain ⟨title, _, ofTitle, ofNone, rfl⟩ := List.forall₂_cons_left_iff.mp ofOthers
  obtain rfl := List.forall₂_nil_left_iff.mp ofNone
  rw [assetsParsed] at ofAssets
  rw [titleParsed] at ofTitle
  obtain ⟨stored, location⟩ := ofAssets.located _ rfl (by decide)
  have kept : title.2 = .null := ofTitle.other fun leaf isText => nomatch isText
  have shown : assets.1.section? = some "Assets" :=
    (ofAssets.shown "Assets" rfl).mpr fun other found => nomatch found
  refine ⟨distinct, assets.1, title.1, ?_, ofAssets.name, ofAssets.tags, ?_, shown, ofTitle.name,
    ofTitle.tags, fun name => ?_⟩
  · rw [listed, ← kept, ← stored]
  · exact location "location" "p1" (by decide)
  · rw [ofTitle.declared name rfl]
    exact ite_self none

/-- The section that the content brings is the one that shows. -/
theorem declared_section_hidden :
    [assetsEntry.1.section?, titleEntry.1.section?] = [some "Assets", none] ∧
      (builtin.interpretEntries [assetsEntry, titleEntry] []
        (foundAssets [("location", .string "p1"), ("section", .string "Other")])).map
          (fun entry => entry.1.section?) = [some "Other", none] := by
  decide +kernel

end Registry

end ThreatModel
