import ThreatModel.Proofs.Reference.NormalForm
import ThreatModel.Proofs.Reference.Resolution
import ThreatModel.Rule.All

/-!
Which duplicates are reported. Keys are visited in document order, and the other keys of a reported set
are passed over, so every key with a shared value is in one reported set: it begins the set, with the
first of its values that others have, or it is listed by a set that begins before it. A key of several
values is not reported again for the others.
-/

namespace ThreatModel

theorem mem_filledTexts_iff {text : String} {texts : List String} :
    text ∈ filledTexts texts ↔ text ∈ texts ∧ normalise text ≠ "" := by
  rw [filledTexts, List.mem_filter, ne_eq, normalise_eq_empty_iff, Bool.not_eq_true,
    Bool.not_eq_eq_eq_not, Bool.not_true]

namespace Document

variable {doc : Document} {family value : String} {key : Key} {custom : Option Comparison}
  {found : ReferenceMatch}

/-- Without comparisons of the caller's, the caller's comparison decides nothing. -/
theorem references_of_equals
    (equals : ∀ tag ∈ ReferenceTag.ofKey key family, tag.comparison = ReferenceTag.equals)
    (other : Option Comparison) :
    doc.references family key value custom = doc.references family key value other := by
  rw [references, references]
  apply congrArg
  apply List.flatMap_congr
  intro tag member
  have accepts : tag.accepts custom value = tag.accepts other value := by
    funext field text
    simp only [ReferenceTag.accepts, if_pos (equals tag member)]
  rw [matchesOf, matchesOf, accepts]

theorem normalise_eq_of_mem_references
    (equals : ∀ tag ∈ ReferenceTag.ofKey key family, tag.comparison = ReferenceTag.equals)
    (matched : found ∈ doc.references family key value custom) :
    found.text ∈ doc.textsOf found.key ∧ normalise value = normalise found.text := by
  obtain ⟨tag, carrier, resolved⟩ := mem_references_iff.mp matched
  have sameText := ReferenceTag.text_of_parse? resolved.read
  have ofKey : tag ∈ ReferenceTag.ofKey key family :=
    ReferenceTag.mem_ofKey_iff.mpr
      ⟨sameText ▸ resolved.carried, sameText ▸ resolved.read, resolved.ofFamily⟩
  have accepted := resolved.accepted
  simp only [ReferenceTag.accepts, if_pos (equals tag ofKey)] at accepted
  exact ⟨mem_textsOf_iff.mpr resolved.listed, eq_of_beq accepted⟩

theorem pairwise_keyIds (doc : Document) :
    doc.keyIds.Pairwise fun left right => left.index < right.index :=
  List.pairwise_map.mpr List.pairwise_lt_range

theorem index_lt_of_keyIds_eq {before after : List KeyId} {key earlier : KeyId}
    (order : doc.keyIds = before ++ key :: after) (member : earlier ∈ before) :
    earlier.index < key.index := by
  have increasing := doc.pairwise_keyIds
  rw [order, List.pairwise_append] at increasing
  exact increasing.2.2 earlier member key List.mem_cons_self

end Document

namespace Rule

variable {doc : Document} {family value : String} {reported keys : List KeyId}
  {key other : KeyId} {set own : DuplicateSet}

theorem mem_otherHolders_iff :
    other ∈ otherHolders doc family key value ↔ other ≠ key ∧
      ∃ found ∈ doc.references family (doc.key key) value (some (otherSectionComparison doc key)),
        found.key = other := by
  simp [otherHolders, and_comm]

theorem exists_mem_otherHolders_iff {custom : Option Comparison}
    (equals : ∀ tag ∈ ReferenceTag.ofKey (doc.key key) family,
      tag.comparison = ReferenceTag.equals) :
    (∃ other, other ∈ otherHolders doc family key value) ↔
      ∃ found ∈ doc.references family (doc.key key) value custom, found.key ≠ key := by
  rw [Document.references_of_equals equals (some (otherSectionComparison doc key))]
  constructor
  · rintro ⟨other, held⟩
    obtain ⟨different, found, matched, rfl⟩ := mem_otherHolders_iff.mp held
    exact ⟨found, matched, different⟩
  · rintro ⟨found, matched, different⟩
    exact ⟨found.key, mem_otherHolders_iff.mpr ⟨different, found, matched, rfl⟩⟩

/-- A key's set is that of the first of its texts with other holders. -/
theorem duplicateSet?_eq_some_iff :
    duplicateSet? doc family key = some set ↔
      set.key = key ∧ set.others = otherHolders doc family key set.value ∧ set.others ≠ [] ∧
        ∃ before after, filledTexts (doc.textsOf key) = before ++ set.value :: after ∧
          ∀ text ∈ before, otherHolders doc family key text = [] := by
  rw [duplicateSet?, List.findSome?_eq_some_iff]
  constructor
  · rintro ⟨before, text, after, order, begins, skipped⟩
    cases holders : otherHolders doc family key text with
    | nil => simp [holders] at begins
    | cons first rest =>
        simp only [holders, Option.some.injEq] at begins
        subst begins
        refine ⟨rfl, holders.symm, List.cons_ne_nil _ _, before, after, order, ?_⟩
        intro text member
        have none := skipped text member
        cases earlier : otherHolders doc family key text with
        | nil => rfl
        | cons => simp [earlier] at none
  · rintro ⟨rfl, others, filled, before, after, order, skipped⟩
    refine ⟨before, set.value, after, order, ?_, fun text member => ?_⟩
    · cases holders : otherHolders doc family set.key set.value with
      | nil => exact absurd (others.trans holders) filled
      | cons first rest => simp [← holders, ← others]
    · simp [skipped text member]

theorem exists_duplicateSet?_of_holder (listed : value ∈ filledTexts (doc.textsOf key))
    (held : other ∈ otherHolders doc family key value) :
    ∃ set, duplicateSet? doc family key = some set := by
  apply Option.isSome_iff_exists.mp
  rw [duplicateSet?, List.findSome?_isSome_iff]
  refine ⟨value, listed, ?_⟩
  cases holders : otherHolders doc family key value with
  | nil =>
      rw [holders] at held
      cases held
  | cons first rest => rfl

theorem duplicateSet?_of_mem_duplicateSets (member : set ∈ duplicateSets doc family reported keys) :
    duplicateSet? doc family set.key = some set := by
  induction keys generalizing reported with
  | nil => cases member
  | cons first rest ih =>
      rw [duplicateSets] at member
      split at member
      · exact ih member
      · split at member
        · exact ih member
        · next begun found =>
            rcases List.mem_cons.mp member with rfl | later
            · rw [(duplicateSet?_eq_some_iff.mp found).1]
              exact found
            · exact ih later

/-- A key with a set of its own begins it, unless a set that begins before lists the key. -/
theorem mem_duplicateSets_or_listed (before after : List KeyId)
    (found : duplicateSet? doc family key = some own) (fresh : key ∉ reported) :
    own ∈ duplicateSets doc family reported (before ++ key :: after) ∨
      ∃ set ∈ duplicateSets doc family reported (before ++ key :: after),
        set.key ∈ before ∧ key ∈ set.others := by
  -- The keys before are visited one by one; those that are reported on the way are kept from `key`.
  induction before generalizing reported with
  | nil =>
      left
      rw [List.nil_append, duplicateSets, if_neg (by simpa using fresh), found]
      exact List.mem_cons_self
  | cons first rest ih =>
      have later : ∀ {seen : List KeyId}, key ∉ seen →
          own ∈ duplicateSets doc family seen (rest ++ key :: after) ∨
            ∃ set ∈ duplicateSets doc family seen (rest ++ key :: after),
              set.key ∈ first :: rest ∧ key ∈ set.others := by
        intro seen unseen
        rcases ih unseen with begun | ⟨set, member, earlier, lists⟩
        · exact .inl begun
        · exact .inr ⟨set, member, List.mem_cons_of_mem _ earlier, lists⟩
      rw [List.cons_append, duplicateSets]
      split
      · exact later fresh
      · cases begins : duplicateSet? doc family first with
        | none => exact later fresh
        | some set =>
            have startsHere := (duplicateSet?_eq_some_iff.mp begins).1
            by_cases same : key = first
            · rw [same, begins] at found
              cases found
              exact .inl List.mem_cons_self
            · by_cases lists : key ∈ set.others
              · exact .inr ⟨set, List.mem_cons_self, by simp [startsHere], lists⟩
              · have unseen : key ∉ first :: set.others ++ reported := by
                  simp [same, lists, fresh]
                rcases later unseen with begun | ⟨set, member, reaches⟩
                · exact .inl (List.mem_cons_of_mem _ begun)
                · exact .inr ⟨set, List.mem_cons_of_mem _ member, reaches⟩

/-- The family of tags that ask for unique values: the setting's, or else the conventional one. -/
def familyInUse (scene : Scene) (config : Json) : String :=
  ((readFamily? config).join).getD scene.conventions.uniqueFamily

def reportedValue? (issue : Issue) : Option String :=
  (issue.data.bind (·.member? "value")).bind Json.asString?

/-- All tags of the family compare normalised texts. -/
def ComparesEquals (doc : Document) (family : String) : Prop :=
  ∀ key ∈ doc.keyIds, ∀ tag ∈ ReferenceTag.ofKey (doc.key key) family,
    tag.comparison = ReferenceTag.equals

instance : Decidable (ComparesEquals doc family) :=
  inferInstanceAs (Decidable (∀ key ∈ doc.keyIds, ∀ tag ∈ ReferenceTag.ofKey (doc.key key) family,
    tag.comparison = ReferenceTag.equals))

theorem findDuplicates_issues (scene : Scene) (config : Json) :
    (Rule.uniqueness.find scene config).issues =
      (duplicateSets scene.model (familyInUse scene config) [] scene.model.keyIds).map
        (duplicateIssue scene) := rfl

theorem exists_text_of_mem_others (equals : ComparesEquals doc family)
    (isKey : set.key ∈ doc.keyIds) (found : duplicateSet? doc family set.key = some set)
    (lists : key ∈ set.others) :
    ∃ text ∈ filledTexts (doc.textsOf key), normalise set.value = normalise text := by
  obtain ⟨_, others, _, before, after, order, _⟩ := duplicateSet?_eq_some_iff.mp found
  rw [others, mem_otherHolders_iff] at lists
  obtain ⟨_, reference, matched, rfl⟩ := lists
  obtain ⟨listed, same⟩ := Document.normalise_eq_of_mem_references (equals _ isKey) matched
  have reported : set.value ∈ filledTexts (doc.textsOf set.key) := by
    rw [order]
    exact List.mem_append_right _ List.mem_cons_self
  have filled := (mem_filledTexts_iff.mp reported).2
  exact ⟨reference.text, mem_filledTexts_iff.mpr ⟨listed, same ▸ filled⟩, same⟩

/-- How a set reports `key`, one of whose texts is the shared `value`. -/
inductive Reports (doc : Document) (family : String) (custom : Option Comparison) (key : KeyId)
    (value : String) (set : DuplicateSet) : Prop
  /-- The set begins at the key, with the first of its texts that other keys hold. -/
  | atKey (before after : List String) : set.key = key →
      filledTexts (doc.textsOf key) = before ++ set.value :: after → value ∉ before →
      (∀ text ∈ before, ∀ found ∈ doc.references family (doc.key key) text custom,
        found.key = key) →
      (∃ found ∈ doc.references family (doc.key key) set.value custom, found.key ≠ key) →
      Reports doc family custom key value set
  /-- The set begins at an earlier key and has one of the key's texts as its value. -/
  | amongOthers (text : String) : set.key.index < key.index → key ∈ set.others →
      text ∈ filledTexts (doc.textsOf key) → normalise set.value = normalise text →
      Reports doc family custom key value set

/-- Every key with a shared value is reported by a set, though the set's value may be another one of the
key's. Where the texts of the key are all one up to case and blanks, it is the shared value. -/
theorem shared_value_reported (scene : Scene) (config : Json) (custom : Option Comparison)
    (equals : ComparesEquals scene.model (familyInUse scene config))
    (isKey : key ∈ scene.model.keyIds)
    (listed : value ∈ filledTexts (scene.model.textsOf key))
    (shared : ∃ found ∈ scene.model.references (familyInUse scene config) (scene.model.key key) value
      custom, found.key ≠ key) :
    ∃ set, duplicateIssue scene set ∈ (Rule.uniqueness.find scene config).issues ∧
      reportedValue? (duplicateIssue scene set) = some set.value ∧
      Reports scene.model (familyInUse scene config) custom key value set ∧
      ((∀ text ∈ filledTexts (scene.model.textsOf key), normalise text = normalise value) →
        normalise set.value = normalise value) := by
  obtain ⟨other, held⟩ := (exists_mem_otherHolders_iff (equals key isKey)).mpr shared
  obtain ⟨own, found⟩ := exists_duplicateSet?_of_holder listed held
  obtain ⟨before, after, order⟩ := List.append_of_mem isKey
  rw [findDuplicates_issues]
  rcases mem_duplicateSets_or_listed before after found List.not_mem_nil with
    begun | ⟨set, member, earlier, lists⟩
  · rw [← order] at begun
    obtain ⟨atKey, others, nonempty, skipped, rest, texts, noneBefore⟩ :=
      duplicateSet?_eq_some_iff.mp found
    have reported : own.value ∈ filledTexts (scene.model.textsOf key) := by
      rw [texts]
      exact List.mem_append_right _ List.mem_cons_self
    refine ⟨own, List.mem_map_of_mem begun, rfl, .atKey skipped rest atKey texts ?_ ?_ ?_,
      fun one => one _ reported⟩
    · intro early
      rw [noneBefore value early] at held
      cases held
    · intro text early reference matched
      by_contra different
      obtain ⟨_, holds⟩ :=
        (exists_mem_otherHolders_iff (equals key isKey)).mpr ⟨reference, matched, different⟩
      rw [noneBefore text early] at holds
      cases holds
    · rw [others] at nonempty
      have anyOther := List.exists_mem_of_ne_nil _ nonempty
      exact (exists_mem_otherHolders_iff (equals key isKey)).mp anyOther
  · rw [← order] at member
    have begins := duplicateSet?_of_mem_duplicateSets member
    have earlierKey : set.key ∈ scene.model.keyIds := by
      rw [order]
      exact List.mem_append_left _ earlier
    obtain ⟨text, ownText, same⟩ := exists_text_of_mem_others equals earlierKey begins lists
    exact ⟨set, List.mem_map_of_mem member, rfl,
      .amongOthers text (Document.index_lt_of_keyIds_eq order earlier) lists ownText same,
      fun one => same.trans (one text ownText)⟩

def sharedNames : Document :=
  let name := Key.withTags "name" ["asset-name", "unique/assets-data/asset-name"]
  let names := Node.list [.ofString "DB", .ofString "Keys"]
  .ofNode (.map [(.withTags "assets" ["assets-data"],
    .list [.map [(name, names)], .map [(name, names)]])])

def sceneOfSharedNames : Scene where
  conventions := .standard
  wording := .builtin
  bindings := []
  model := sharedNames
  template := .ofNode .null
  rows := .build sharedNames

/-- Both assets hold `Keys`, and the issue through which the second one is reported is about `DB`. -/
theorem shared_value_reported_of_listed :
    ComparesEquals sharedNames (familyInUse sceneOfSharedNames .null) ∧
    ⟨2⟩ ∈ sharedNames.keyIds ∧
    "Keys" ∈ filledTexts (sharedNames.textsOf ⟨2⟩) ∧
    (∃ found ∈ sharedNames.references (familyInUse sceneOfSharedNames .null) (sharedNames.key ⟨2⟩)
      "Keys" none, found.key ≠ ⟨2⟩) ∧
    ∃ set, duplicateIssue sceneOfSharedNames set ∈
        (Rule.uniqueness.find sceneOfSharedNames .null).issues ∧
      reportedValue? (duplicateIssue sceneOfSharedNames set) = some set.value ∧
      Reports sharedNames (familyInUse sceneOfSharedNames .null) none ⟨2⟩ "Keys" set ∧
      ((∀ text ∈ filledTexts (sharedNames.textsOf ⟨2⟩), normalise text = normalise "Keys") →
        normalise set.value = normalise "Keys") := by
  have equals : ComparesEquals sharedNames (familyInUse sceneOfSharedNames .null) := by
    decide +kernel
  have isKey : ⟨2⟩ ∈ sharedNames.keyIds := by decide +kernel
  have listed : "Keys" ∈ filledTexts (sharedNames.textsOf ⟨2⟩) := by decide +kernel
  have shared : ∃ found ∈ sharedNames.references (familyInUse sceneOfSharedNames .null)
      (sharedNames.key ⟨2⟩) "Keys" none, found.key ≠ ⟨2⟩ := by decide +kernel
  exact ⟨equals, isKey, listed, shared,
    shared_value_reported sceneOfSharedNames .null none equals isKey listed shared⟩

/-- A shared value goes unreported where another value of the key is reported. -/
theorem shared_value_unreported :
    ¬ ∀ (scene : Scene) (config : Json) (key : KeyId) (value : String) (custom : Option Comparison),
      ComparesEquals scene.model (familyInUse scene config) →
      key ∈ scene.model.keyIds →
      value ∈ filledTexts (scene.model.textsOf key) →
      (∃ found ∈ scene.model.references (familyInUse scene config) (scene.model.key key) value
        custom, found.key ≠ key) →
      ∃ issue ∈ (Rule.uniqueness.find scene config).issues, ∃ reported,
        reportedValue? issue = some reported ∧ normalise reported = normalise value := by
  intro complete
  have equals : ComparesEquals sharedNames (familyInUse sceneOfSharedNames .null) := by
    decide +kernel
  have isKey : ⟨1⟩ ∈ sharedNames.keyIds := by decide +kernel
  have listed : "Keys" ∈ filledTexts (sharedNames.textsOf ⟨1⟩) := by decide +kernel
  have shared : ∃ found ∈ sharedNames.references (familyInUse sceneOfSharedNames .null)
      (sharedNames.key ⟨1⟩) "Keys" none, found.key ≠ ⟨1⟩ := by decide +kernel
  have values : (Rule.uniqueness.find sceneOfSharedNames .null).issues.map reportedValue? =
      [some "DB"] := by decide +kernel
  have different : normalise "DB" ≠ normalise "Keys" := by decide +kernel
  obtain ⟨issue, member, reported, states, same⟩ :=
    complete sceneOfSharedNames .null _ _ none equals isKey listed shared
  have among := List.mem_map_of_mem (f := reportedValue?) member
  rw [values, states, List.mem_singleton, Option.some.injEq] at among
  exact different (among ▸ same)

end Rule

end ThreatModel
