import ThreatModel.Rule.Basic

/-!
Assets that no threat covers. A threat covers an asset that it lists by name or by kind, if it
threatens the component that stores the asset, and it covers all assets of a component or of a
storage location that it names in a phrase. The threats that cover an asset are noted at its storage
location.
-/

namespace ThreatModel.Rule

/-- The ways in which a threat covers an asset. -/
inductive Scenario
  /-- By the asset's name. -/
  | byName
  /-- By the asset's kind. -/
  | byKind
  /-- By the component that holds it. -/
  | byComponent
  /-- By the place where it is stored. -/
  | byStorage
deriving DecidableEq, Repr

namespace Scenario

def all : List Scenario := [.byName, .byKind, .byComponent, .byStorage]

/-- The letter by which settings and annotations call a scenario. -/
def letter : Scenario → String
  | .byName => "A"
  | .byKind => "B"
  | .byComponent => "C"
  | .byStorage => "D"

end Scenario

structure Asset where
  name : String
  /-- The normalised kind, if the row gives one. -/
  kind : Option String
  storageKey : KeyId
  /-- The storage location as it stands in the row. -/
  storageText : String
deriving Repr

structure Threat where
  label : String
  /-- The normalised components that are threatened. -/
  components : List String
  /-- The normalised texts that list assets. -/
  assets : List String
deriving DecidableEq, Repr

namespace Asset

/-- The normalised storage location. -/
def storage (asset : Asset) : String := normalise asset.storageText

end Asset

/-- The rows of the section with a data tag: the mappings of its list, or the one mapping that it
is. -/
def tableRows (doc : Document) (dataTag : String) : List Item :=
  match doc.section? dataTag with
  | some (_, .list _ items) => items.filter Item.isMapping
  | some (_, .map id entries) => [.map id entries]
  | _ => []

/-- The normalised texts of a column of a row. -/
def columnTexts (doc : Document) (row : Item) (tag : String) : List String :=
  match doc.findTagged? row tag with
  | some (_, item) => item.texts.map normalise
  | none => []

/-- The text of a column of a row, if it is one. -/
def columnText? (doc : Document) (row : Item) (tag : String) : Option String :=
  (doc.findTagged? row tag).bind fun entry => entry.2.text?

/-- The threat of a row, which is called by its number where no key names it. -/
def threatOf (scene : Scene) (number : Nat) (row : Item) : Threat :=
  let doc := scene.model
  let tags := scene.conventions.threats
  ⟨((scene.rows.identifierOf? row.id).bind doc.keyText?).getD ("#" ++ toString number),
    columnTexts doc row tags.component, columnTexts doc row tags.assets⟩

def threats (scene : Scene) : List Threat :=
  (tableRows scene.model scene.conventions.threats.data).mapIdx fun index row =>
    threatOf scene (index + 1) row

/-- The asset of a row that says where it is stored. -/
def assetOf? (scene : Scene) (row : Item) : Option Asset :=
  let doc := scene.model
  let tags := scene.conventions.assets
  match doc.findTagged? row tags.storage with
  | none => none
  | some (storageKey, item) =>
      let storage := String.intercalate "\n" item.texts
      if Unicode.isBlankText storage then none
      else
        some ⟨(columnText? doc row tags.name).getD "",
          ((columnText? doc row tags.kind).map normalise).filter (!·.isEmpty), storageKey, storage⟩

def assets (scene : Scene) : List Asset :=
  (tableRows scene.model scene.conventions.assets.data).filterMap (assetOf? scene)

/-- What follows the first phrase that begins a text. -/
def afterPhrase? (phrases : List String) (text : String) : Option String :=
  phrases.findSome? fun phrase =>
    let beginning := normalise phrase
    if startsWith text beginning then
      some (Unicode.trim (.ofList (text.toList.drop beginning.length)))
    else none

/-- A threat covers an asset in a scenario. -/
def covers (groups : GroupPhrases) (scenario : Scenario) (asset : Asset) (threat : Threat) : Bool :=
  let inComponent := threat.components.contains asset.storage
  match scenario with
  | .byName => threat.assets.contains (normalise asset.name) && inComponent
  | .byKind =>
      match asset.kind with
      | some kind => threat.assets.contains kind && inComponent
      | none => false
  | .byComponent =>
      threat.assets.any fun text => afterPhrase? groups.inComponent text == some asset.storage
  | .byStorage =>
      threat.assets.any fun text =>
        (afterPhrase? groups.storedIn text).isSome && endsWith text asset.storage

/-- The threats that cover an asset, each with the first scenario that holds. -/
def covering (scene : Scene) (scenarios : List Scenario) (asset : Asset) :
    List (Threat × Scenario) :=
  (threats scene).filterMap fun threat =>
    (scenarios.find? fun scenario =>
      covers scene.conventions.groups scenario asset threat).map (threat, ·)

def coveringRecord (scene : Scene) (scenarios : List Scenario) (asset : Asset) : Annotation :=
  ⟨asset.storageKey, Property.coveringThreats,
    .array ((covering scene scenarios asset).map fun found =>
      .object [("threat", .string found.1.label), ("scenario", .string found.2.letter)])⟩

def uncoveredIssue (scene : Scene) (asset : Asset) : Issue :=
  let storage := Unicode.trim asset.storageText
  scene.issueAt asset.storageKey .error "asset-not-covered"
    [("asset", asset.name), ("storage", storage)]
    (.object [("asset", .string asset.name), ("storage", .string storage)]) none

/-- The scenarios that a setting allows. -/
def readScenarios? (config : Json) : Option (List Scenario) := do
  let record ← ruleFields? ["scenarios"] config
  let scenario := Source.choice? (Scenario.all.map fun scenario => (scenario.letter, scenario))
  Source.withDefault? record "scenarios" (Source.listOf? scenario) Scenario.all

/-- A setting that cannot be read allows all scenarios. -/
def findUncovered (scene : Scene) (config : Json) : Findings :=
  let scenarios := (readScenarios? config).getD Scenario.all
  ⟨((assets scene).filter fun asset => (covering scene scenarios asset).isEmpty).map
      (uncoveredIssue scene),
    (assets scene).map (coveringRecord scene scenarios)⟩

end ThreatModel.Rule
