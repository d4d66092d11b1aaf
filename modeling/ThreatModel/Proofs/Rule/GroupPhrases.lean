import Mathlib.Data.List.Perm.Basic
import ThreatModel.Proofs.FirstWhere
import ThreatModel.Proofs.Reference.NormalForm
import ThreatModel.Rule.All

/-!
The phrases by which a threat names a component. Of the phrases that begin a text the first of the list
counts, and what follows it has to be the storage location of the asset. So a phrase goes unheard behind
another one that begins the same text. Where no phrase begins another, all of them count, in any order.
-/

namespace ThreatModel

/-- Between a phrase and what it stands before there is one blank, so a text is such a pair in one way. -/
theorem Unicode.trimChars_rest_iff {phrase first storage rest : List Char}
    (phraseTrimmed : Trimmed phrase) (firstTrimmed : Trimmed first) (storageTrimmed : Trimmed storage)
    (filled : storage ≠ []) (split : phrase ++ ' ' :: storage = first ++ rest) :
    trimChars rest = storage ↔ first = phrase := by
  have blankBetween : ∀ c ∈ [' '], isBlank c = true := List.forall_mem_singleton.mpr rfl
  constructor
  · intro same
    obtain ⟨before, after, parts, blankBefore, blankAfter⟩ := exists_blanks_around rest
    rw [same] at parts
    rw [parts] at split
    -- The text ends with the storage location, so no blank stands behind it.
    have nothingAfter : after = [] := by
      by_contra something
      have lasts := congrArg List.getLast? split
      rw [List.getLast?_append_cons, List.getLast?_cons_of_ne_nil filled, ← List.append_assoc,
        List.getLast?_append_of_ne_nil _ something] at lasts
      have isLast := List.getLast_mem_getLast? something
      rw [← lasts] at isLast
      have endFilled := storageTrimmed.last _ isLast
      rw [blankAfter _ (List.getLast_mem something)] at endFilled
      cases endFilled
    have fronts : phrase ++ [' '] = first ++ before := by
      have whole : (phrase ++ [' ']) ++ storage = (first ++ before) ++ storage := by
        simpa [nothingAfter] using split
      exact List.append_cancel_right whole
    have trimmedFronts := congrArg (List.rdropWhile isBlank) fronts
    rw [rdropWhile_append_of_blank blankBetween, phraseTrimmed.rdropWhile_eq,
      rdropWhile_append_of_blank blankBefore, firstTrimmed.rdropWhile_eq] at trimmedFronts
    exact trimmedFronts.symm
  · rintro rfl
    obtain rfl : ' ' :: storage = rest := List.append_cancel_left split
    rw [← List.singleton_append, trimChars_append_of_blank blankBetween, storageTrimmed.trimChars_eq]

theorem startsWith_iff {text beginning : String} :
    startsWith text beginning = true ↔ ∃ following, text = beginning ++ following := by
  rw [startsWith, List.isPrefixOf_iff_prefix]
  constructor
  · rintro ⟨following, split⟩
    refine ⟨.ofList following, ?_⟩
    rw [← String.toList_inj, String.toList_append, String.toList_ofList, split]
  · rintro ⟨following, rfl⟩
    exact ⟨following.toList, String.toList_append.symm⟩

def Scene.withGroups (scene : Scene) (groups : GroupPhrases) : Scene :=
  { scene with conventions := { scene.conventions with groups := groups } }

namespace Rule

variable {phrases reordered : List String} {phrase first text rest following storage : String}
  {groups : GroupPhrases} {scene : Scene}

def FirstBegins (phrases : List String) (text : String) : String → Prop :=
  FirstWhere (fun phrase => startsWith text (normalise phrase) = true) phrases

theorem FirstBegins.begins (isFirst : FirstBegins phrases text first) :
    startsWith text (normalise first) = true :=
  isFirst.holds

theorem exists_firstBegins (listed : phrase ∈ phrases)
    (begins : startsWith text (normalise phrase) = true) :
    ∃ first, FirstBegins phrases text first :=
  FirstWhere.exists_of_mem listed begins

theorem afterPhrase?_eq_some_iff :
    afterPhrase? phrases text = some rest ↔ ∃ first following, FirstBegins phrases text first ∧
      text = normalise first ++ following ∧ Unicode.trim following = rest := by
  have dropped : ∀ {beginning following : String},
      String.ofList ((beginning ++ following).toList.drop beginning.length) = following := by
    intro beginning following
    rw [String.toList_append, ← String.length_toList, List.drop_left, String.ofList_toList]
  rw [afterPhrase?, List.findSome?_eq_some_iff]
  constructor
  · rintro ⟨before, first, after, order, found, noneBefore⟩
    dsimp only at found
    split at found
    · next begins =>
        obtain ⟨following, rfl⟩ := startsWith_iff.mp begins
        rw [dropped] at found
        refine ⟨first, following, ⟨begins, before, after, order, ?_⟩, rfl, Option.some.inj found⟩
        simpa using noneBefore
    · cases found
  · rintro ⟨first, following, ⟨begins, before, after, order, noneBefore⟩, rfl, rfl⟩
    refine ⟨before, first, after, order, ?_, ?_⟩
    · dsimp only
      rw [if_pos begins, dropped]
    · simpa using noneBefore

/-- How a threat names a group: the phrase, and behind a blank the storage location. -/
def groupText (phrase storage : String) : String :=
  normalise phrase ++ " " ++ storage

/-- What follows a phrase in the text is the storage location for one normal form of the phrase only. -/
theorem trim_following_iff (filled : normalise storage ≠ "")
    (split : groupText phrase (normalise storage) = normalise first ++ following) :
    Unicode.trim following = normalise storage ↔ normalise first = normalise phrase := by
  have chars : (normalise phrase).toList ++ ' ' :: (normalise storage).toList =
      (normalise first).toList ++ following.toList := by
    simpa [groupText] using congrArg String.toList split
  rw [← String.toList_inj, ← String.toList_inj, Unicode.toList_trim]
  exact Unicode.trimChars_rest_iff (trimmed_normalise phrase) (trimmed_normalise first)
    (trimmed_normalise storage) (by simpa using filled) chars

theorem afterPhrase?_groupText_iff (filled : normalise storage ≠ "") :
    afterPhrase? phrases (groupText phrase (normalise storage)) = some (normalise storage) ↔
      ∃ first, FirstBegins phrases (groupText phrase (normalise storage)) first ∧
        normalise first = normalise phrase := by
  rw [afterPhrase?_eq_some_iff]
  constructor
  · rintro ⟨first, following, isFirst, split, same⟩
    exact ⟨first, isFirst, (trim_following_iff filled split).mp same⟩
  · rintro ⟨first, isFirst, same⟩
    obtain ⟨following, split⟩ := startsWith_iff.mp isFirst.begins
    exact ⟨first, following, isFirst, split, (trim_following_iff filled split).mpr same⟩

/-- No phrase begins another, up to case and blanks. -/
def NoOverlap (phrases : List String) : Prop :=
  ∀ phrase ∈ phrases, ∀ other ∈ phrases,
    startsWith (normalise phrase) (normalise other) = true → normalise other = normalise phrase

theorem NoOverlap.of_perm (apart : NoOverlap phrases) (permuted : phrases.Perm reordered) :
    NoOverlap reordered := fun phrase listed other otherListed =>
  apart phrase (permuted.mem_iff.mpr listed) other (permuted.mem_iff.mpr otherListed)

theorem NoOverlap.normalise_eq {other : String} (apart : NoOverlap phrases) (listed : phrase ∈ phrases)
    (otherListed : other ∈ phrases) (begins : startsWith text (normalise phrase) = true)
    (otherBegins : startsWith text (normalise other) = true) : normalise other = normalise phrase := by
  have bothBegin := List.prefix_or_prefix_of_prefix (List.isPrefixOf_iff_prefix.mp begins)
    (List.isPrefixOf_iff_prefix.mp otherBegins)
  rcases bothBegin with phraseFirst | otherFirst
  · exact (apart other otherListed phrase listed (List.isPrefixOf_iff_prefix.mpr phraseFirst)).symm
  · exact apart phrase listed other otherListed (List.isPrefixOf_iff_prefix.mpr otherFirst)

theorem NoOverlap.afterPhrase?_eq_some (apart : NoOverlap phrases) (listed : phrase ∈ phrases)
    (split : text = normalise phrase ++ following) :
    afterPhrase? phrases text = some (Unicode.trim following) := by
  have begins : startsWith text (normalise phrase) = true := startsWith_iff.mpr ⟨following, split⟩
  obtain ⟨first, isFirst⟩ := exists_firstBegins listed begins
  have same := apart.normalise_eq listed isFirst.mem begins isFirst.begins
  rw [← same] at split
  exact afterPhrase?_eq_some_iff.mpr ⟨first, following, isFirst, split, rfl⟩

theorem afterPhrase?_eq_none_iff :
    afterPhrase? phrases text = none ↔
      ∀ phrase ∈ phrases, startsWith text (normalise phrase) = false := by
  simp [afterPhrase?, List.findSome?_eq_none_iff]

theorem NoOverlap.afterPhrase?_perm (apart : NoOverlap phrases) (permuted : phrases.Perm reordered)
    (text : String) : afterPhrase? reordered text = afterPhrase? phrases text := by
  by_cases someBegins : ∃ phrase ∈ phrases, startsWith text (normalise phrase) = true
  · obtain ⟨phrase, listed, begins⟩ := someBegins
    obtain ⟨following, split⟩ := startsWith_iff.mp begins
    rw [apart.afterPhrase?_eq_some listed split,
      (apart.of_perm permuted).afterPhrase?_eq_some (permuted.mem_iff.mp listed) split]
  · have noneBegins : ∀ phrase ∈ phrases, startsWith text (normalise phrase) = false := by
      simpa using someBegins
    rw [afterPhrase?_eq_none_iff.mpr noneBegins, afterPhrase?_eq_none_iff]
    exact fun phrase listed => noneBegins phrase (permuted.mem_iff.mpr listed)

variable {asset : Asset} {threat : Threat}

theorem covers_byComponent_iff :
    covers groups .byComponent asset threat = true ↔ ∃ text ∈ threat.assets, ∃ first following,
      FirstBegins groups.inComponent text first ∧ text = normalise first ++ following ∧
        Unicode.trim following = asset.storage := by
  simp only [covers, List.any_eq_true, beq_iff_eq, afterPhrase?_eq_some_iff]

theorem covers_byComponent_groupText_iff (filled : Unicode.isBlankText asset.storageText = false)
    (lists : threat.assets = [groupText phrase asset.storage]) :
    covers groups .byComponent asset threat = true ↔
      ∃ first, FirstBegins groups.inComponent (groupText phrase asset.storage) first ∧
        normalise first = normalise phrase := by
  have stored : normalise asset.storageText ≠ "" := by simp [normalise_eq_empty_iff, filled]
  have heard : afterPhrase? groups.inComponent (groupText phrase asset.storage) = some asset.storage ↔
      ∃ first, FirstBegins groups.inComponent (groupText phrase asset.storage) first ∧
        normalise first = normalise phrase := afterPhrase?_groupText_iff stored
  simpa [covers, lists] using heard

/-- Every phrase covers: a threat that lists it with the storage location of an asset covers the asset. -/
def AllHeard (groups : GroupPhrases) : Prop :=
  ∀ phrase ∈ groups.inComponent, ∀ (asset : Asset) (threat : Threat),
    Unicode.isBlankText asset.storageText = false →
    groupText phrase asset.storage ∈ threat.assets →
    covers groups .byComponent asset threat = true

theorem NoOverlap.allHeard (apart : NoOverlap groups.inComponent) : AllHeard groups := by
  intro phrase listed asset threat filled lists
  have stored : normalise asset.storageText ≠ "" := by simp [normalise_eq_empty_iff, filled]
  have split : groupText phrase asset.storage = normalise phrase ++ (" " ++ asset.storage) :=
    String.append_assoc ..
  have follows : Unicode.trim (" " ++ asset.storage) = asset.storage :=
    (trim_following_iff stored split).mpr rfl
  obtain ⟨first, following, isFirst, parts, rest⟩ :=
    afterPhrase?_eq_some_iff.mp (apart.afterPhrase?_eq_some listed split)
  exact covers_byComponent_iff.mpr ⟨_, lists, first, following, isFirst, parts, rest.trans follows⟩

/-- The phrase that is begun by the other one is not heard when the other one comes first. -/
theorem noOverlap_of_allHeard
    (heard : ∀ reordered, groups.inComponent.Perm reordered →
      AllHeard { groups with inComponent := reordered }) :
    NoOverlap groups.inComponent := by
  intro phrase listed other otherListed begins
  let asset : Asset := ⟨"", none, ⟨0⟩, "x"⟩
  let threat : Threat := ⟨"", [], [groupText phrase asset.storage]⟩
  have filled : Unicode.isBlankText asset.storageText = false := by decide
  have permuted := List.perm_cons_erase otherListed
  have covered := heard _ permuted phrase (permuted.mem_iff.mp listed) asset threat filled
    List.mem_cons_self
  obtain ⟨first, isFirst, same⟩ := (covers_byComponent_groupText_iff filled rfl).mp covered
  obtain ⟨following, split⟩ := startsWith_iff.mp begins
  have otherBegins : startsWith (groupText phrase asset.storage) (normalise other) = true := by
    rw [startsWith_iff, groupText, split]
    exact ⟨following ++ (" " ++ asset.storage), by simp only [String.append_assoc]⟩
  rw [isFirst.eq_of_cons otherBegins] at same
  exact same

theorem NoOverlap.find_perm (apart : NoOverlap groups.inComponent)
    (permuted : groups.inComponent.Perm reordered) (config : Json) :
    Rule.assetCoverage.find (scene.withGroups { groups with inComponent := reordered }) config =
      Rule.assetCoverage.find (scene.withGroups groups) config := by
  have sameCovers : covers { groups with inComponent := reordered } = covers groups := by
    funext scenario asset threat
    cases scenario with
    | byComponent => simp only [covers, apart.afterPhrase?_perm permuted]
    | byName | byKind | byStorage => rfl
  have sameCovering : covering (scene.withGroups { groups with inComponent := reordered }) =
      covering (scene.withGroups groups) := by
    funext scenarios asset
    change ((threats scene).filterMap fun threat => (scenarios.find? fun scenario =>
      covers { groups with inComponent := reordered } scenario asset threat).map (threat, ·)) = _
    rw [sameCovers]
    rfl
  have sameRecord : coveringRecord (scene.withGroups { groups with inComponent := reordered }) =
      coveringRecord (scene.withGroups groups) := by
    funext scenarios asset
    rw [coveringRecord, coveringRecord, sameCovering]
  rw [find, find, findUncovered, findUncovered, sameCovering, sameRecord]
  rfl

/-- A phrase with a storage location covers what is stored there exactly if no phrase of another normal
form comes first among those that begin the text. So every phrase is heard in every order exactly if none
begins another one, and then the order makes no difference to what is covered. -/
theorem heard_in_every_order_iff (groups : GroupPhrases) :
    (∀ asset threat, covers groups .byComponent asset threat = true ↔
      ∃ text ∈ threat.assets, ∃ first following, FirstBegins groups.inComponent text first ∧
        text = normalise first ++ following ∧ Unicode.trim following = asset.storage) ∧
    (∀ phrase (asset : Asset) (threat : Threat), Unicode.isBlankText asset.storageText = false →
      threat.assets = [groupText phrase asset.storage] →
      (covers groups .byComponent asset threat = true ↔
        ∃ first, FirstBegins groups.inComponent (groupText phrase asset.storage) first ∧
          normalise first = normalise phrase)) ∧
    ((∀ reordered, groups.inComponent.Perm reordered →
      AllHeard { groups with inComponent := reordered }) ↔ NoOverlap groups.inComponent) ∧
    (NoOverlap groups.inComponent → ∀ reordered, groups.inComponent.Perm reordered →
      ∀ (scene : Scene) (config : Json),
        Rule.assetCoverage.find (scene.withGroups { groups with inComponent := reordered }) config =
          Rule.assetCoverage.find (scene.withGroups groups) config) := by
  refine ⟨fun _ _ => covers_byComponent_iff,
    fun _ _ _ filled lists => covers_byComponent_groupText_iff filled lists, ⟨?_, ?_⟩, ?_⟩
  · exact noOverlap_of_allHeard
  · intro apart reordered permuted
    have stillApart := apart.of_perm permuted
    exact stillApart.allHeard
  · intro apart reordered permuted scene config
    exact apart.find_perm permuted config

/-- One asset, and a threat to all assets where it is stored. -/
def groupedLogs : Document :=
  let field := fun name tag text => (Key.withTags name [tag], Node.ofString text)
  .ofNode (.map [
    (.withTags "assets" ["assets-data"], .list [
      .map [field "asset" "asset-name" "Logs", field "storage" "storage-location" "Log server"]]),
    (.withTags "threats" ["threats-data"], .list [
      .map [field "to" "threat-assets" "All assets in log server"]])])

/-- Of the two phrases here the first one begins the second one. -/
def sceneOfGroupedLogs : Scene where
  conventions := { Conventions.standard with groups := ⟨["all assets", "all assets in"], []⟩ }
  wording := .builtin
  bindings := []
  model := groupedLogs
  template := .ofNode .null
  rows := .build groupedLogs

/-- Behind `all assets`, the phrase `all assets in` is not heard. With the two exchanged it is. -/
theorem phrase_behind_overlap_unheard :
    ¬ ((∀ scene : Scene, ∀ phrase ∈ scene.conventions.groups.inComponent, ∀ asset ∈ assets scene,
        ∀ threat ∈ threats scene, groupText phrase asset.storage ∈ threat.assets →
          covers scene.conventions.groups .byComponent asset threat = true) ∨
      ∀ (scene : Scene) (groups : GroupPhrases) (reordered : List String),
        groups.inComponent.Perm reordered →
        (Rule.assetCoverage.find (scene.withGroups { groups with inComponent := reordered })
          .null).issues = (Rule.assetCoverage.find (scene.withGroups groups) .null).issues) := by
  rintro (heard | unordered)
  · have unheard : ((assets sceneOfGroupedLogs).any fun asset => (threats sceneOfGroupedLogs).any
        fun threat => threat.assets.contains (groupText "all assets in" asset.storage) &&
          !covers sceneOfGroupedLogs.conventions.groups .byComponent asset threat) = true := by
      decide +kernel
    simp only [List.any_eq_true, Bool.and_eq_true, List.contains_iff_mem, Bool.not_eq_true'] at unheard
    obtain ⟨asset, isAsset, threat, isThreat, lists, uncovered⟩ := unheard
    have covered :=
      heard sceneOfGroupedLogs "all assets in" (by decide) asset isAsset threat isThreat lists
    rw [uncovered] at covered
    cases covered
  · have swapped := unordered sceneOfGroupedLogs sceneOfGroupedLogs.conventions.groups
      ["all assets in", "all assets"] (.swap ..)
    have counts := congrArg List.length swapped
    revert counts
    decide +kernel

end Rule

end ThreatModel
