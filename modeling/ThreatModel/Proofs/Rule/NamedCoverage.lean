import ThreatModel.Proofs.FirstWhere
import ThreatModel.Proofs.Reference.NormalForm
import ThreatModel.Proofs.Rule.Coverage

/-!
What the cells of two rows must hold for a threat to be noted at an asset. Texts are compared in normal
form, and the name of an asset without one counts as blank, so a threat that lists a blank text covers such
an asset by name. A kind that is blank or missing covers nothing.
-/

namespace ThreatModel

namespace Document

variable {doc : Document} {row : Item} {tag text form : String}

def Holds (doc : Document) (row : Item) (tag text : String) : Prop :=
  ∃ key, doc.FirstBelow row tag key ∧ doc.keyText? key = some text

/-- Among the texts of the column of the row one has the normal form. -/
def Lists (doc : Document) (row : Item) (tag form : String) : Prop :=
  ∃ key, doc.FirstBelow row tag key ∧ ∃ text ∈ doc.textsOf key, normalise text = form

theorem columnText?_eq_some_iff (stands : row ∈ doc.root.subtrees) :
    Rule.columnText? doc row tag = some text ↔ doc.Holds row tag text := by
  rw [Rule.columnText?, Option.bind_eq_some_iff]
  constructor
  · rintro ⟨⟨key, item⟩, found, isText⟩
    obtain ⟨first, rfl⟩ := (findTagged?_eq_some_iff stands).mp found
    exact ⟨key, first, isText⟩
  · rintro ⟨key, first, isText⟩
    exact ⟨(key, doc.valueOf key), (findTagged?_eq_some_iff stands).mpr ⟨first, rfl⟩, isText⟩

theorem mem_columnTexts_iff (stands : row ∈ doc.root.subtrees) :
    form ∈ Rule.columnTexts doc row tag ↔ doc.Lists row tag form := by
  have firstFound : ∀ {key item}, doc.findTagged? row tag = some (key, item) ↔
      doc.FirstBelow row tag key ∧ item = doc.valueOf key := findTagged?_eq_some_iff stands
  rw [Rule.columnTexts]
  split
  · next key item found =>
      obtain ⟨first, rfl⟩ := firstFound.mp found
      rw [List.mem_map]
      constructor
      · exact fun listed => ⟨key, first, listed⟩
      · rintro ⟨other, otherFirst, listed⟩
        have otherFound := firstFound.mpr ⟨otherFirst, rfl⟩
        rw [found] at otherFound
        cases otherFound
        exact listed
  · next nothing =>
      refine iff_of_false List.not_mem_nil ?_
      rintro ⟨key, first, _⟩
      have found := firstFound.mpr ⟨first, rfl⟩
      rw [nothing] at found
      cases found

end Document

namespace Rule

variable {scene : Scene} {scenario : Scenario} {scenarios : List Scenario} {row threatRow : Item}
  {key : KeyId} {asset : Asset} {threat : Threat} {number : Nat} {tag : String}

/-- The row has a text in the column that is not blank, and the threat lists it among its assets. -/
def ListsColumn (scene : Scene) (row : Item) (tag : String) (threatRow : Item) : Prop :=
  ∃ text, scene.model.Holds row tag text ∧ Unicode.isBlankText text = false ∧
    scene.model.Lists threatRow scene.conventions.threats.assets (normalise text)

/-- The threat lists a blank text among its assets, and the asset of the row has no name that is not. -/
structure ListsNameless (scene : Scene) (row threatRow : Item) : Prop where
  nameless : ∀ name, scene.model.Holds row scene.conventions.assets.name name →
    Unicode.isBlankText name = true
  listsBlank : scene.model.Lists threatRow scene.conventions.threats.assets ""

/-- The normal form of where the key says that an asset is stored. -/
def storageAt (doc : Document) (key : KeyId) : String :=
  normalise (String.intercalate "\n" (doc.textsOf key))

/-- The threat of a row covers the asset of a row, which is stored where the key says. -/
def CoversRow (scene : Scene) (row : Item) (key : KeyId) (threatRow : Item) : Scenario → Prop
  | .byName =>
      (ListsColumn scene row scene.conventions.assets.name threatRow ∨
        ListsNameless scene row threatRow) ∧
      scene.model.Lists threatRow scene.conventions.threats.component (storageAt scene.model key)
  | .byKind =>
      ListsColumn scene row scene.conventions.assets.kind threatRow ∧
      scene.model.Lists threatRow scene.conventions.threats.component (storageAt scene.model key)
  | .byComponent =>
      ∃ text, scene.model.Lists threatRow scene.conventions.threats.assets text ∧
        afterPhrase? scene.conventions.groups.inComponent text = some (storageAt scene.model key)
  | .byStorage =>
      ∃ text, scene.model.Lists threatRow scene.conventions.threats.assets text ∧
        (afterPhrase? scene.conventions.groups.storedIn text).isSome ∧
        endsWith text (storageAt scene.model key) = true

/-- The fields of an asset are those of its row. -/
structure IsAssetOf (scene : Scene) (row : Item) (asset : Asset) : Prop where
  name : asset.name = (columnText? scene.model row scene.conventions.assets.name).getD ""
  kind : asset.kind = ((columnText? scene.model row scene.conventions.assets.kind).map normalise).filter
    (!·.isEmpty)
  storage : asset.storage = storageAt scene.model asset.storageKey

theorem isAssetOf_of_assetOf? (stands : row ∈ scene.model.root.subtrees)
    (given : assetOf? scene row = some asset) : IsAssetOf scene row asset := by
  rw [assetOf?] at given
  split at given
  · cases given
  · next storageKey item found =>
      obtain ⟨_, rfl⟩ := (Document.findTagged?_eq_some_iff stands).mp found
      dsimp only at given
      split at given
      · cases given
      · cases given
        exact ⟨rfl, rfl, rfl⟩

theorem lists_name_iff (stands : row ∈ scene.model.root.subtrees) (isAsset : IsAssetOf scene row asset) :
    scene.model.Lists threatRow scene.conventions.threats.assets (normalise asset.name) ↔
      ListsColumn scene row scene.conventions.assets.name threatRow ∨
        ListsNameless scene row threatRow := by
  have isName : ∀ name, columnText? scene.model row scene.conventions.assets.name = some name ↔
      scene.model.Holds row scene.conventions.assets.name name :=
    fun _ => Document.columnText?_eq_some_iff stands
  rw [isAsset.name]
  cases cell : columnText? scene.model row scene.conventions.assets.name with
  | none =>
      have noName : ∀ name, ¬ scene.model.Holds row scene.conventions.assets.name name := by
        intro name holds
        cases cell.symm.trans ((isName name).mpr holds)
      have blankForm : normalise ((none : Option String).getD "") = "" := by decide
      rw [blankForm]
      constructor
      · exact fun listed => .inr ⟨fun name holds => absurd holds (noName name), listed⟩
      · rintro (⟨name, holds, _⟩ | nameless)
        · exact absurd holds (noName name)
        · exact nameless.listsBlank
  | some name =>
      have holds := (isName name).mp cell
      have onlyName : ∀ other, scene.model.Holds row scene.conventions.assets.name other →
          other = name := by
        intro other otherHolds
        exact Option.some.inj (((isName other).mpr otherHolds).symm.trans cell)
      cases blank : Unicode.isBlankText name with
      | false =>
          constructor
          · exact fun listed => .inl ⟨name, holds, blank, listed⟩
          · rintro (⟨other, otherHolds, _, listed⟩ | nameless)
            · rwa [onlyName other otherHolds] at listed
            · cases blank.symm.trans (nameless.nameless name holds)
      | true =>
          have blankForm : normalise ((some name).getD "") = "" := normalise_eq_empty_iff.mpr blank
          rw [blankForm]
          constructor
          · refine fun listed => .inr ⟨fun other otherHolds => ?_, listed⟩
            rwa [onlyName other otherHolds]
          · rintro (⟨other, otherHolds, filled, _⟩ | nameless)
            · rw [onlyName other otherHolds] at filled
              cases filled.symm.trans blank
            · exact nameless.listsBlank

theorem lists_kind_iff (stands : row ∈ scene.model.root.subtrees) (isAsset : IsAssetOf scene row asset) :
    (∃ kind, asset.kind = some kind ∧
      scene.model.Lists threatRow scene.conventions.threats.assets kind) ↔
      ListsColumn scene row scene.conventions.assets.kind threatRow := by
  have isKind : ∀ kind, asset.kind = some kind ↔ ∃ text,
      scene.model.Holds row scene.conventions.assets.kind text ∧
        Unicode.isBlankText text = false ∧ normalise text = kind := by
    intro kind
    have filled : ∀ text, (!(normalise text).isEmpty) = true ↔ Unicode.isBlankText text = false := by
      intro text
      rw [Bool.not_eq_true', ← Bool.not_eq_true, ← Bool.not_eq_true, String.isEmpty_iff,
        normalise_eq_empty_iff]
    rw [isAsset.kind, Option.filter_eq_some_iff, Option.map_eq_some_iff]
    constructor
    · rintro ⟨⟨text, cell, rfl⟩, isFilled⟩
      exact ⟨text, (Document.columnText?_eq_some_iff stands).mp cell, (filled text).mp isFilled, rfl⟩
    · rintro ⟨text, holds, isFilled, rfl⟩
      exact ⟨⟨text, (Document.columnText?_eq_some_iff stands).mpr holds, rfl⟩, (filled text).mpr isFilled⟩
  simp only [isKind]
  constructor
  · rintro ⟨_, ⟨text, holds, filled, rfl⟩, listed⟩
    exact ⟨text, holds, filled, listed⟩
  · rintro ⟨text, holds, filled, listed⟩
    exact ⟨_, ⟨text, holds, filled, rfl⟩, listed⟩

theorem covers_iff_coversRow (stands : row ∈ scene.model.root.subtrees)
    (threatStands : threatRow ∈ scene.model.root.subtrees) (isAsset : IsAssetOf scene row asset) :
    covers scene.conventions.groups scenario asset (threatOf scene number threatRow) = true ↔
      CoversRow scene row asset.storageKey threatRow scenario := by
  have inAssets : ∀ form, form ∈ (threatOf scene number threatRow).assets ↔
      scene.model.Lists threatRow scene.conventions.threats.assets form :=
    fun _ => Document.mem_columnTexts_iff threatStands
  have inComponents : ∀ form, form ∈ (threatOf scene number threatRow).components ↔
      scene.model.Lists threatRow scene.conventions.threats.component form :=
    fun _ => Document.mem_columnTexts_iff threatStands
  cases scenario with
  | byName =>
      simp only [covers, CoversRow, Bool.and_eq_true, List.contains_iff_mem, inAssets, inComponents,
        isAsset.storage, lists_name_iff stands isAsset]
  | byKind =>
      rw [CoversRow, ← lists_kind_iff stands isAsset, ← isAsset.storage]
      cases kind : asset.kind <;>
        simp [covers, kind, inAssets, inComponents]
  | byComponent =>
      simp only [covers, CoversRow, List.any_eq_true, beq_iff_eq, inAssets, isAsset.storage]
  | byStorage =>
      simp only [covers, CoversRow, List.any_eq_true, Bool.and_eq_true, inAssets, isAsset.storage]

theorem mem_threats_iff :
    threat ∈ threats scene ↔ ∃ index threatRow,
      (tableRows scene.model scene.conventions.threats.data)[index]? = some threatRow ∧
        threat = threatOf scene (index + 1) threatRow := by
  rw [threats, List.mem_mapIdx]
  constructor
  · rintro ⟨index, inside, rfl⟩
    exact ⟨index, _, List.getElem?_eq_getElem inside, rfl⟩
  · rintro ⟨index, threatRow, isRow, rfl⟩
    obtain ⟨inside, rfl⟩ := List.getElem?_eq_some_iff.mp isRow
    exact ⟨index, inside, rfl⟩

theorem mem_covering_iff :
    (threat, scenario) ∈ covering scene scenarios asset ↔ threat ∈ threats scene ∧
      FirstWhere (fun scenario => covers scene.conventions.groups scenario asset threat = true) scenarios
        scenario := by
  rw [covering, List.mem_filterMap]
  simp only [Option.map_eq_some_iff, Prod.mk.injEq]
  rw [← FirstWhere.find?_eq_some_iff fun _ => Iff.rfl]
  constructor
  · rintro ⟨_, listed, _, found, rfl, rfl⟩
    exact ⟨listed, found⟩
  · rintro ⟨listed, found⟩
    exact ⟨threat, listed, scenario, found, rfl, rfl⟩

def recordOf (threat : Threat) (scenario : Scenario) : Json :=
  .object [("threat", .string threat.label), ("scenario", .string scenario.letter)]

theorem exists_records (config : Json) (stores : StoresAsset scene row asset.storageKey)
    (given : assetOf? scene row = some asset) :
    ∃ records, noted? scene (Rule.assetCoverage.find scene config) asset.storageKey =
        some (.array records) ∧
      ∀ record, record ∈ records ↔ ∃ threat scenario,
        (threat, scenario) ∈ covering scene (scenariosInUse config) asset ∧
          record = recordOf threat scenario := by
  refine ⟨_, noted?_of_storesAsset config stores given, fun record => ?_⟩
  rw [List.mem_map]
  constructor
  · rintro ⟨⟨threat, scenario⟩, listed, rfl⟩
    exact ⟨threat, scenario, listed, rfl⟩
  · rintro ⟨threat, scenario, listed, rfl⟩
    exact ⟨(threat, scenario), listed, rfl⟩

/-- What is noted at a stored asset: the threats of the rows that cover its row, each with the first
scenario in use that holds. By kind, and by name where the asset has one, that takes a text of the asset
that is not blank, in the list of the threat, and the storage location among its components. An asset
without a name is covered by name where the threat lists a blank text. -/
theorem noted_iff_coversRow (config : Json) (stores : StoresAsset scene row key) :
    ∃ records, noted? scene (Rule.assetCoverage.find scene config) key = some (.array records) ∧
      ∀ record, record ∈ records ↔ ∃ index threatRow scenario,
        (tableRows scene.model scene.conventions.threats.data)[index]? = some threatRow ∧
        FirstWhere (CoversRow scene row key threatRow) (scenariosInUse config) scenario ∧
        record = recordOf (threatOf scene (index + 1) threatRow) scenario := by
  obtain ⟨asset, given, rfl⟩ := (storesAsset_iff stores.isRow).mp stores
  have stands := stores.isRow.mem_subtrees
  have isAsset := isAssetOf_of_assetOf? stands given
  have sameScenarios : ∀ {index threatRow},
      (tableRows scene.model scene.conventions.threats.data)[index]? = some threatRow →
      (fun scenario => covers scene.conventions.groups scenario asset
        (threatOf scene (index + 1) threatRow) = true) =
        CoversRow scene row asset.storageKey threatRow := by
    intro index threatRow isRow
    have threatStands := (Document.mem_tableRows_iff.mp (List.mem_of_getElem? isRow)).mem_subtrees
    funext scenario
    exact propext (covers_iff_coversRow stands threatStands isAsset)
  obtain ⟨records, noted, exact⟩ := exists_records config stores given
  refine ⟨records, noted, fun record => (exact record).trans ?_⟩
  constructor
  · rintro ⟨threat, scenario, listed, same⟩
    obtain ⟨isThreat, isFirst⟩ := mem_covering_iff.mp listed
    obtain ⟨index, threatRow, isRow, rfl⟩ := mem_threats_iff.mp isThreat
    rw [sameScenarios isRow] at isFirst
    exact ⟨index, threatRow, scenario, isRow, isFirst, same⟩
  · rintro ⟨index, threatRow, scenario, isRow, isFirst, same⟩
    rw [← sameScenarios isRow] at isFirst
    have isThreat := mem_threats_iff.mpr ⟨index, threatRow, isRow, rfl⟩
    exact ⟨_, scenario, mem_covering_iff.mpr ⟨isThreat, isFirst⟩, same⟩

theorem recordOf_scenario {other : Threat} {otherScenario : Scenario}
    (same : recordOf threat scenario = recordOf other otherScenario) : scenario = otherScenario := by
  cases scenario <;> cases otherScenario <;> simp [recordOf, Scenario.letter] at same ⊢

theorem exists_noted_byName {config : Json} {name : String}
    (found : (name, [Scenario.byName]) ∈ (assets scene).map fun asset =>
      (asset.name, (covering scene (scenariosInUse config) asset).map (·.2))) :
    ∃ row asset, StoresAsset scene row asset.storageKey ∧ assetOf? scene row = some asset ∧
      asset.name = name ∧ ∃ records threat,
        noted? scene (Rule.assetCoverage.find scene config) asset.storageKey = some (.array records) ∧
        recordOf threat .byName ∈ records := by
  obtain ⟨asset, isAsset, same⟩ := List.mem_map.mp found
  obtain ⟨named, byName⟩ := Prod.mk.inj same
  obtain ⟨row, stores, given⟩ := mem_assets_iff.mp isAsset
  have someByName : Scenario.byName ∈
      (covering scene (scenariosInUse config) asset).map (·.2) := by
    rw [byName]
    exact List.mem_singleton_self _
  obtain ⟨⟨threat, _⟩, listed, rfl⟩ := List.mem_map.mp someByName
  obtain ⟨records, noted, exact⟩ := exists_records config stores given
  exact ⟨row, asset, stores, given, named, records, threat, noted,
    (exact _).mpr ⟨threat, .byName, listed, rfl⟩⟩

theorem logs_noted_by_name :
    ∃ row key, StoresAsset sceneOfStoredAssets row key ∧ ∃ records threat,
      noted? sceneOfStoredAssets (Rule.assetCoverage.find sceneOfStoredAssets .null) key =
        some (.array records) ∧
      recordOf threat .byName ∈ records ∧
      ∃ threatRow, CoversRow sceneOfStoredAssets row key threatRow .byName := by
  have found : ("Logs", [Scenario.byName]) ∈ (assets sceneOfStoredAssets).map fun asset =>
      (asset.name, (covering sceneOfStoredAssets (scenariosInUse .null) asset).map (·.2)) := by
    decide +kernel
  obtain ⟨row, asset, stores, _, _, records, threat, noted, byName⟩ := exists_noted_byName found
  refine ⟨row, asset.storageKey, stores, records, threat, noted, byName, ?_⟩
  obtain ⟨sameRecords, notedSame, exact⟩ := noted_iff_coversRow .null stores
  cases notedSame.symm.trans noted
  obtain ⟨_, threatRow, scenario, _, isFirst, same⟩ := (exact _).mp byName
  obtain rfl := recordOf_scenario same
  exact ⟨threatRow, isFirst.holds⟩

/-- An asset without a name, and a threat to its component that lists nothing. -/
def namelessAsset : Document :=
  let field := fun name tag text => (Key.withTags name [tag], Node.ofString text)
  .ofNode (.map [
    (.withTags "assets" ["assets-data"], .list [
      .map [field "storage" "storage-location" "Backend"]]),
    (.withTags "threats" ["threats-data"], .list [
      .map [field "component" "threat-component" "backend", field "to" "threat-assets" ""]])])

def sceneOfNamelessAsset : Scene :=
  { sceneOfStoredAssets with model := namelessAsset, rows := .build namelessAsset }

/-- The blank list of the threat is taken for the name of the asset. -/
theorem nameless_noted_by_name :
    ¬ ∀ (scene : Scene) (config : Json) (row : Item) (key : KeyId), StoresAsset scene row key →
      ∀ records threat,
        noted? scene (Rule.assetCoverage.find scene config) key = some (.array records) →
        recordOf threat .byName ∈ records →
        ∃ name, scene.model.Holds row scene.conventions.assets.name name ∧
          Unicode.isBlankText name = false := by
  intro named
  have found : ("", [Scenario.byName]) ∈ (assets sceneOfNamelessAsset).map fun asset =>
      (asset.name, (covering sceneOfNamelessAsset (scenariosInUse .null) asset).map (·.2)) := by
    decide +kernel
  obtain ⟨row, asset, stores, given, nameless, records, threat, noted, byName⟩ :=
    exists_noted_byName found
  obtain ⟨name, holds, filled⟩ := named _ _ row asset.storageKey stores records threat noted byName
  have stands := stores.isRow.mem_subtrees
  have isName := (isAssetOf_of_assetOf? stands given).name
  rw [(Document.columnText?_eq_some_iff stands).mpr holds, Option.getD_some, nameless] at isName
  rw [← isName] at filled
  cases filled

end Rule

end ThreatModel
