import ThreatModel.Proofs.Rule.TableRows
import ThreatModel.Proofs.Verification.Frame

/-!
What the search for uncovered assets finds. Each row of the asset table that says where its asset is
stored has the threats that cover it noted at the key that says so. The assets with none are reported, one
issue each. Only a scenario that is allowed can cover an asset, so allowing more leaves fewer to report.
-/

namespace ThreatModel.Rule

variable {scene : Scene} {scenarios further : List Scenario} {row : Item} {key : KeyId}
  {asset : Asset}

/-- The scenarios that a setting allows; one that cannot be read allows all. -/
def scenariosInUse (config : Json) : List Scenario :=
  (readScenarios? config).getD Scenario.all

/-- The setting that allows the scenarios, in this order. -/
def scenariosSetting (scenarios : List Scenario) : Json :=
  .object [("scenarios", .array (scenarios.map fun scenario => .string scenario.letter))]

theorem scenariosInUse_setting (scenarios : List Scenario) :
    scenariosInUse (scenariosSetting scenarios) = scenarios := by
  have each : ∀ scenario : Scenario,
      Source.choice? (Scenario.all.map fun scenario => (scenario.letter, scenario))
        (.json (.string scenario.letter)) = some scenario := by
    intro scenario
    cases scenario <;> decide
  have items : (scenarios.map fun scenario => Source.json (.string scenario.letter)).mapM
      (Source.choice? (Scenario.all.map fun scenario => (scenario.letter, scenario))) =
        some scenarios := by
    induction scenarios with
    | nil => rfl
    | cons scenario rest ih => rw [List.map_cons, List.mapM_cons, each, ih]; rfl
  have read : readScenarios? (scenariosSetting scenarios) = some scenarios := by
    have recorded : ruleFields? ["scenarios"] (scenariosSetting scenarios) =
        some [("scenarios", .json (.array (scenarios.map fun scenario =>
          .string scenario.letter)))] := rfl
    rw [readScenarios?, recorded]
    simpa [Source.withDefault?, Source.listOf?, Source.items?, Function.comp_def] using items
  rw [scenariosInUse, read]
  rfl

theorem isBlankText_intercalate {texts : List String} :
    Unicode.isBlankText (String.intercalate "\n" texts) ↔
      ∀ text ∈ texts, Unicode.isBlankText text := by
  simp only [Unicode.isBlankText, String.toList_intercalate]
  induction texts with
  | nil => simp
  | cons text rest ih =>
      cases rest with
      | nil => simp
      | cons second rest =>
          have blankLine : Unicode.isBlank '\n' = true := rfl
          rw [List.map_cons, List.map_cons, List.intercalate_cons_cons, ← List.map_cons]
          simp_all

/-- The row is one of an asset that is stored somewhere: the first key of the row for that is `key`, and
it says where. -/
structure StoresAsset (scene : Scene) (row : Item) (key : KeyId) : Prop where
  isRow : scene.model.IsTableRow scene.conventions.assets.data row
  first : scene.model.FirstBelow row scene.conventions.assets.storage key
  filled : ∃ text ∈ scene.model.textsOf key, ¬ Unicode.isBlankText text

theorem storesAsset_iff (isRow : scene.model.IsTableRow scene.conventions.assets.data row) :
    StoresAsset scene row key ↔
      ∃ asset, assetOf? scene row = some asset ∧ asset.storageKey = key := by
  have below := isRow.mem_subtrees
  have someText : ∀ texts : List String, (∃ text ∈ texts, ¬ Unicode.isBlankText text) ↔
      ¬ Unicode.isBlankText (String.intercalate "\n" texts) := by
    intro texts
    rw [isBlankText_intercalate]
    push Not
    rfl
  constructor
  · rintro ⟨_, first, filled⟩
    have found := (Document.findTagged?_eq_some_iff below).mpr ⟨first, rfl⟩
    have written := (someText _).mp filled
    rw [assetOf?, found]
    exact ⟨_, if_neg written, rfl⟩
  · rintro ⟨asset, given, rfl⟩
    rw [assetOf?] at given
    split at given
    · cases given
    · next storageKey item found =>
        obtain ⟨first, rfl⟩ := (Document.findTagged?_eq_some_iff below).mp found
        dsimp only at given
        split at given
        · cases given
        · next written =>
            cases given
            exact ⟨isRow, first, (someText _).mpr written⟩

theorem StoresAsset.hasKey (stores : StoresAsset scene row key) : row.HasKey key :=
  ⟨_, stores.first.hasEntry stores.isRow.mem_subtrees⟩

theorem StoresAsset.row_unique {other : Item} (stores : StoresAsset scene row key)
    (otherStores : StoresAsset scene other key) : row = other :=
  stores.isRow.eq_of_hasKey otherStores.isRow stores.hasKey otherStores.hasKey

theorem mem_assets_iff :
    asset ∈ assets scene ↔
      ∃ row, StoresAsset scene row asset.storageKey ∧ assetOf? scene row = some asset := by
  rw [assets, List.mem_filterMap]
  constructor
  · rintro ⟨row, listed, given⟩
    have isRow := Document.mem_tableRows_iff.mp listed
    exact ⟨row, (storesAsset_iff isRow).mpr ⟨asset, given, rfl⟩, given⟩
  · rintro ⟨row, stores, given⟩
    exact ⟨row, Document.mem_tableRows_iff.mpr stores.isRow, given⟩

/-- The threats that cover the asset, in their order, each with the first scenario in which it does. -/
inductive FirstMatches (groups : GroupPhrases) (scenarios : List Scenario) (asset : Asset) :
    List Threat → List (Threat × Scenario) → Prop
  | done : FirstMatches groups scenarios asset [] []
  | covered {threat threats before scenario after listed} :
      scenarios = before ++ scenario :: after →
      covers groups scenario asset threat →
      (∀ earlier ∈ before, ¬ covers groups earlier asset threat) →
      FirstMatches groups scenarios asset threats listed →
      FirstMatches groups scenarios asset (threat :: threats) ((threat, scenario) :: listed)
  | uncovered {threat threats listed} :
      (∀ scenario ∈ scenarios, ¬ covers groups scenario asset threat) →
      FirstMatches groups scenarios asset threats listed →
      FirstMatches groups scenarios asset (threat :: threats) listed

theorem firstMatches_covering (scene : Scene) (scenarios : List Scenario) (asset : Asset) :
    FirstMatches scene.conventions.groups scenarios asset (threats scene)
      (covering scene scenarios asset) := by
  rw [covering]
  induction threats scene with
  | nil => exact .done
  | cons threat rest ih =>
      rw [List.filterMap_cons]
      cases found : scenarios.find? fun scenario =>
          covers scene.conventions.groups scenario asset threat with
      | none => exact .uncovered (by simpa using List.find?_eq_none.mp found) ih
      | some scenario =>
          obtain ⟨holds, before, after, order, fails⟩ := List.find?_eq_some_iff_append.mp found
          exact .covered order holds (by simpa using fails) ih

theorem covering_eq_nil_iff :
    covering scene scenarios asset = [] ↔ ∀ threat ∈ threats scene, ∀ scenario ∈ scenarios,
      ¬ covers scene.conventions.groups scenario asset threat := by
  simp [covering, List.filterMap_eq_nil_iff]

theorem covering_eq_nil_of_subset (fewer : scenarios ⊆ further)
    (uncovered : covering scene further asset = []) : covering scene scenarios asset = [] :=
  covering_eq_nil_iff.mpr fun threat listed scenario allowed =>
    covering_eq_nil_iff.mp uncovered threat listed scenario (fewer allowed)

/-- What is written at a key of the threats that cover the asset stored there. -/
def noted? (scene : Scene) (found : Findings) (key : KeyId) : Option Json :=
  ((found.annotate scene.model).key key).property? Property.coveringThreats

def matchesJson (listed : List (Threat × Scenario)) : Json :=
  .array (listed.map fun found =>
    .object [("threat", .string found.1.label), ("scenario", .string found.2.letter)])

theorem noted?_of_storesAsset (config : Json) (stores : StoresAsset scene row asset.storageKey)
    (given : assetOf? scene row = some asset) :
    noted? scene (findUncovered scene config) asset.storageKey =
      some (matchesJson (covering scene (scenariosInUse config) asset)) := by
  obtain ⟨value, inRow⟩ := stores.hasKey
  have isKey := Document.mem_keyIds_iff.mpr ⟨value, inRow.mono stores.isRow.mem_subtrees⟩
  have isAsset := mem_assets_iff.mpr ⟨row, stores, given⟩
  have listed := List.mem_map_of_mem (f := coveringRecord scene (scenariosInUse config)) isAsset
  refine Document.property?_written isKey listed ?_
  -- The keys of two assets differ, so the notes at one key are the same.
  rintro _ noted sameKey -
  obtain ⟨other, isOther, rfl⟩ := List.mem_map.mp noted
  obtain ⟨otherRow, otherStores, otherGiven⟩ := mem_assets_iff.mp isOther
  have sameStorage : other.storageKey = asset.storageKey := sameKey
  rw [sameStorage] at otherStores
  obtain rfl := otherStores.row_unique stores
  obtain rfl := Option.some.inj (otherGiven.symm.trans given)
  rfl

theorem key_annotate_of_not_storesAsset (config : Json)
    (unstored : ∀ row, ¬ StoresAsset scene row key) :
    ((findUncovered scene config).annotate scene.model).key key = scene.model.key key := by
  apply Document.key_written_of_unmarked
  rintro _ noted rfl
  obtain ⟨asset, isAsset, rfl⟩ := List.mem_map.mp noted
  obtain ⟨row, stores, _⟩ := mem_assets_iff.mp isAsset
  exact unstored row stores

theorem noted?_eq_nothing_iff (config : Json) (stores : StoresAsset scene row asset.storageKey)
    (given : assetOf? scene row = some asset) :
    noted? scene (findUncovered scene config) asset.storageKey = some (.array []) ↔
      covering scene (scenariosInUse config) asset = [] := by
  rw [noted?_of_storesAsset config stores given, matchesJson, Option.some.injEq, Json.array.injEq,
    List.map_eq_nil_iff]

/-- The rows of the asset table with assets that no threat covers. -/
def uncoveredRows (scene : Scene) (scenarios : List Scenario) : List Item :=
  (tableRows scene.model scene.conventions.assets.data).filter fun row =>
    (assetOf? scene row).any fun asset => (covering scene scenarios asset).isEmpty

theorem mem_uncoveredRows_iff (config : Json) :
    row ∈ uncoveredRows scene (scenariosInUse config) ↔
      ∃ key, StoresAsset scene row key ∧
        noted? scene (findUncovered scene config) key = some (.array []) := by
  rw [uncoveredRows, List.mem_filter, Document.mem_tableRows_iff]
  constructor
  · rintro ⟨isRow, uncovered⟩
    cases given : assetOf? scene row with
    | none =>
        rw [given] at uncovered
        cases uncovered
    | some asset =>
        rw [given] at uncovered
        have stores := (storesAsset_iff isRow).mpr ⟨asset, given, rfl⟩
        have nothing := List.isEmpty_iff.mp uncovered
        exact ⟨asset.storageKey, stores, (noted?_eq_nothing_iff config stores given).mpr nothing⟩
  · rintro ⟨key, stores, noted⟩
    obtain ⟨asset, given, rfl⟩ := (storesAsset_iff stores.isRow).mp stores
    have nothing := (noted?_eq_nothing_iff config stores given).mp noted
    refine ⟨stores.isRow, ?_⟩
    rw [given]
    exact List.isEmpty_iff.mpr nothing

/-- The issue says of the asset of the row that no threat covers it. -/
def IssueOf (scene : Scene) (row : Item) (issue : Issue) : Prop :=
  ∃ asset, assetOf? scene row = some asset ∧ issue = uncoveredIssue scene asset

theorem issues_forall₂ (scene : Scene) (config : Json) :
    List.Forall₂ (IssueOf scene) (uncoveredRows scene (scenariosInUse config))
      (findUncovered scene config).issues := by
  change List.Forall₂ (IssueOf scene) (uncoveredRows scene (scenariosInUse config))
    (((assets scene).filter fun asset =>
      (covering scene (scenariosInUse config) asset).isEmpty).map (uncoveredIssue scene))
  rw [uncoveredRows, assets]
  induction tableRows scene.model scene.conventions.assets.data with
  | nil => exact .nil
  | cons row rest ih =>
      rw [List.filter_cons, List.filterMap_cons]
      cases given : assetOf? scene row with
      | none => exact ih
      | some asset =>
          rw [List.filter_cons]
          simp only [Option.any_some]
          split
          · exact .cons ⟨asset, given, rfl⟩ ih
          · exact ih

theorem issues_sublist (config : Json) {wider : Json}
    (fewer : scenariosInUse config ⊆ scenariosInUse wider) :
    (findUncovered scene wider).issues.Sublist (findUncovered scene config).issues := by
  refine List.Sublist.map _ (List.monotone_filter_right _ ?_)
  intro asset uncovered
  exact List.isEmpty_iff.mpr (covering_eq_nil_of_subset fewer (List.isEmpty_iff.mp uncovered))

/-- Each stored asset has the threats that cover it noted where it is stored, and nothing else is written.
Those with nothing noted are reported in the order of the table, one issue each. -/
structure CoversExactly (scene : Scene) (scenarios : List Scenario) (found : Findings) : Prop where
  noted : ∀ row key, StoresAsset scene row key → ∃ asset listed,
    assetOf? scene row = some asset ∧ asset.storageKey = key ∧
      FirstMatches scene.conventions.groups scenarios asset (threats scene) listed ∧
      noted? scene found key = some (matchesJson listed)
  onlyThere : ∀ key, (∀ row, ¬ StoresAsset scene row key) →
    (found.annotate scene.model).key key = scene.model.key key
  onlyThat : scene.model.Annotates [Property.coveringThreats] (found.annotate scene.model)
  reported : ∃ rows, rows.Nodup ∧
    rows.Sublist (tableRows scene.model scene.conventions.assets.data) ∧
    (∀ row, row ∈ rows ↔
      ∃ key, StoresAsset scene row key ∧ noted? scene found key = some (.array [])) ∧
    List.Forall₂ (IssueOf scene) rows found.issues

theorem coversExactly (scene : Scene) (config : Json) :
    CoversExactly scene (scenariosInUse config) (findUncovered scene config) where
  noted row key stores := by
    obtain ⟨asset, given, rfl⟩ := (storesAsset_iff stores.isRow).mp stores
    exact ⟨asset, _, given, rfl, firstMatches_covering scene _ asset,
      noted?_of_storesAsset config stores given⟩
  onlyThere key unstored := key_annotate_of_not_storesAsset config unstored
  onlyThat := by
    apply Document.annotates_written
    intro note written
    obtain ⟨asset, _, rfl⟩ := List.mem_map.mp written
    exact List.mem_singleton_self _
  reported := by
    have distinct := scene.model.nodup_tableRows scene.conventions.assets.data
    exact ⟨uncoveredRows scene (scenariosInUse config), distinct.filter _, List.filter_sublist,
      fun row => mem_uncoveredRows_iff config, issues_forall₂ scene config⟩

/-- Whether an asset is covered depends on which scenarios are allowed, not on their order, and allowing
more of them adds no issue. -/
theorem coverage_exact_and_monotone (scene : Scene) (config : Json) :
    CoversExactly scene (scenariosInUse config) (Rule.assetCoverage.find scene config) ∧
    (∀ other, (∀ scenario, scenario ∈ scenariosInUse other ↔ scenario ∈ scenariosInUse config) →
      (Rule.assetCoverage.find scene other).issues = (Rule.assetCoverage.find scene config).issues ∧
      ∀ row key, StoresAsset scene row key →
        (noted? scene (Rule.assetCoverage.find scene other) key = some (.array []) ↔
          noted? scene (Rule.assetCoverage.find scene config) key = some (.array []))) ∧
    (∀ wider, scenariosInUse config ⊆ scenariosInUse wider →
      (Rule.assetCoverage.find scene wider).issues.Sublist
        (Rule.assetCoverage.find scene config).issues) ∧
    ∀ scenarios, scenariosInUse (scenariosSetting scenarios) = scenarios := by
  refine ⟨coversExactly scene config, ?_, fun wider => issues_sublist config,
    scenariosInUse_setting⟩
  intro other same
  have fewer : scenariosInUse config ⊆ scenariosInUse other := fun scenario => (same scenario).mpr
  have more : scenariosInUse other ⊆ scenariosInUse config := fun scenario => (same scenario).mp
  refine ⟨(issues_sublist config fewer).antisymm (issues_sublist other more), ?_⟩
  intro row key stores
  obtain ⟨asset, given, rfl⟩ := (storesAsset_iff stores.isRow).mp stores
  have atOther := noted?_eq_nothing_iff other stores given
  have atConfig := noted?_eq_nothing_iff config stores given
  constructor
  · intro nothing
    exact atConfig.mpr (covering_eq_nil_of_subset fewer (atOther.mp nothing))
  · intro nothing
    exact atOther.mpr (covering_eq_nil_of_subset more (atConfig.mp nothing))

/-- Two stored assets and one that is not, with a threat to the component that stores the first and one
to all that is stored where the second is. -/
def storedAssets : Document :=
  let field := fun name tag text => (Key.withTags name [tag], Node.ofString text)
  .ofNode (.map [
    (.withTags "assets" ["assets-data"], .list [
      .map [field "asset" "asset-name" "Logs", field "storage" "storage-location" "Log server"],
      .map [field "asset" "asset-name" "Notes"],
      .map [field "asset" "asset-name" "Key", field "storage" "storage-location" "Environment"]]),
    (.withTags "threats" ["threats-data"], .list [
      .map [field "component" "threat-component" "log server", field "to" "threat-assets" "logs"],
      .map [field "to" "threat-assets" "All assets stored in environment"]])])

def sceneOfStoredAssets : Scene where
  conventions := .standard
  wording := .builtin
  bindings := []
  model := storedAssets
  template := .ofNode .null
  rows := .build storedAssets

-- Both assets are covered when all scenarios are allowed, one of them by name alone.
example :
    let listed := fun scenarios => (assets sceneOfStoredAssets).map fun asset =>
      (covering sceneOfStoredAssets scenarios asset).map fun found => (found.1.label, found.2)
    listed Scenario.all = [[("#1", .byName)], [("#2", .byStorage)]] ∧
      listed [.byName] = [[("#1", .byName)], []] := by
  decide +kernel

end ThreatModel.Rule
