import ThreatModel.Proofs.Document.Ancestry
import ThreatModel.Proofs.Rule.DuplicateReports

/-!
One column of unique values. Where the keys that ask for unique values are those of one column, and the
column is what they ask about, sharing a value is an equivalence among them. Its classes of two and more
keys are then reported one by one, each at its first key.
-/

namespace ThreatModel

namespace Document

variable {doc : Document} {dataTag fieldTag : String} {key : KeyId}

/-- The key carries the field tag, below the first key that carries the data tag. -/
def InColumn (doc : Document) (dataTag fieldTag : String) (key : KeyId) : Prop :=
  (∃ carrier, doc.FirstCarrier dataTag carrier ∧ (doc.valueOf carrier).HasKey key) ∧
    (doc.key key).hasTag fieldTag

/-- The keys that a search for the column finds. -/
def columnKeys (doc : Document) (dataTag fieldTag : String) : List KeyId :=
  match doc.section? dataTag with
  | some (_, region) => (doc.findAllTagged region fieldTag).map (·.1)
  | none => []

theorem mem_columnKeys_iff : key ∈ doc.columnKeys dataTag fieldTag ↔ doc.InColumn dataTag fieldTag key := by
  rw [columnKeys]
  cases found : doc.section? dataTag with
  | none =>
      refine iff_of_false List.not_mem_nil ?_
      rintro ⟨⟨carrier, first, _⟩, _⟩
      have present := findTagged?_root_eq_some_iff.mpr ⟨first, rfl⟩
      rw [section?, present] at found
      contradiction
  | some entry =>
      obtain ⟨carrier, region⟩ := entry
      obtain ⟨first, rfl⟩ := findTagged?_root_eq_some_iff.mp found
      rw [List.mem_map]
      constructor
      · rintro ⟨⟨_, value⟩, listed, rfl⟩
        obtain ⟨holds, carries⟩ := mem_findAllTagged_iff.mp listed
        exact ⟨⟨carrier, first, value, holds⟩, carries⟩
      · rintro ⟨⟨other, otherFirst, value, holds⟩, carries⟩
        obtain rfl := otherFirst.unique first
        exact ⟨(key, value), mem_findAllTagged_iff.mpr ⟨holds, carries⟩, rfl⟩

instance : Decidable (doc.InColumn dataTag fieldTag key) :=
  decidable_of_iff _ mem_columnKeys_iff

theorem InColumn.mem_keyIds (inColumn : doc.InColumn dataTag fieldTag key) : key ∈ doc.keyIds := by
  obtain ⟨⟨carrier, first, value, holds⟩, _⟩ := inColumn
  exact mem_keyIds_iff.mpr ⟨value, holds.mono first.hasEntry.value_mem_subtrees⟩

end Document

namespace Rule

variable {doc : Document} {family dataTag fieldTag value : String} {key other : KeyId}

/-- The tag that asks for unique values in a column. -/
def columnTag (family dataTag fieldTag : String) : ReferenceTag :=
  ⟨family ++ "/" ++ dataTag ++ "/" ++ fieldTag, family, dataTag, fieldTag, ReferenceTag.equals⟩

/-- The key asks for unique values. -/
def AsksForUnique (doc : Document) (family : String) (key : KeyId) : Prop :=
  ReferenceTag.ofKey (doc.key key) family ≠ []

instance : Decidable (AsksForUnique doc family key) :=
  inferInstanceAs (Decidable (_ ≠ []))

/-- The keys that ask for unique values are those of one column, each by the tag that names the column,
and each holds one text. -/
structure UniqueColumn (doc : Document) (family dataTag fieldTag : String) : Prop where
  ofColumn : ∀ key ∈ doc.keyIds, AsksForUnique doc family key ↔ doc.InColumn dataTag fieldTag key
  oneTag : ∀ key ∈ doc.keyIds, AsksForUnique doc family key →
    ReferenceTag.ofKey (doc.key key) family = [columnTag family dataTag fieldTag]
  oneText : ∀ key ∈ doc.keyIds, AsksForUnique doc family key → (doc.textsOf key).length = 1

/-- The keys that ask for unique values and hold a text of the normalised form, in document order. -/
def holders (doc : Document) (family value : String) : List KeyId :=
  doc.keyIds.filter fun key =>
    AsksForUnique doc family key ∧ ∃ text ∈ doc.textsOf key, normalise text = value

theorem mem_holders_iff :
    key ∈ holders doc family value ↔ key ∈ doc.keyIds ∧ AsksForUnique doc family key ∧
      ∃ text ∈ doc.textsOf key, normalise text = value := by
  rw [holders, List.mem_filter, decide_eq_true_eq]

theorem pairwise_holders (doc : Document) (family value : String) :
    (holders doc family value).Pairwise fun left right => left.index < right.index :=
  doc.pairwise_keyIds.filter _

theorem nodup_holders (doc : Document) (family value : String) :
    (holders doc family value).Nodup := by
  refine (pairwise_holders doc family value).imp ?_
  intro left right before same
  rw [same] at before
  omega

theorem asksForUnique_of_mem_otherHolders (held : other ∈ otherHolders doc family key value) :
    AsksForUnique doc family key := by
  obtain ⟨_, found, matched, _⟩ := mem_otherHolders_iff.mp held
  intro none
  rw [Document.references, none] at matched
  cases matched

/-- Each value that two keys hold has one set, which begins at the first holder and lists the others. -/
structure OneSetPerValue (doc : Document) (family : String) (sets : List DuplicateSet) : Prop where
  inOrder : sets.Pairwise fun earlier later => earlier.key.index < later.key.index
  valuesOnce : (sets.map fun set => normalise set.value).Nodup
  values : ∀ value, value ∈ (sets.map fun set => normalise set.value) ↔
    value ≠ "" ∧ 2 ≤ (holders doc family value).length
  members : ∀ set ∈ sets, ∃ rest,
    holders doc family (normalise set.value) = set.key :: rest ∧ set.others.Perm rest

namespace AccountsFor

variable {sets : List DuplicateSet} {set : DuplicateSet} (accounts : AccountsFor doc family sets)
  (member : set ∈ sets)

include accounts member

theorem mem_others_iff :
    other ∈ set.others ↔ other ∈ otherHolders doc family set.key set.value :=
  (accounts.othersFound set member other).trans mem_otherHolders_iff.symm

theorem asksForUnique : AsksForUnique doc family set.key := by
  obtain ⟨counted, inOthers⟩ := List.exists_mem_of_ne_nil _ (accounts.someOther set member)
  exact asksForUnique_of_mem_otherHolders ((accounts.mem_others_iff member).mp inOthers)

theorem key_mem_holders : set.key ∈ holders doc family (normalise set.value) := by
  have listed := (mem_filledTexts_iff.mp (accounts.ownValue set member)).1
  exact mem_holders_iff.mpr
    ⟨accounts.isKey set member, accounts.asksForUnique member, set.value, listed, rfl⟩

end AccountsFor

namespace UniqueColumn

variable {sets : List DuplicateSet} {set : DuplicateSet}
  (column : UniqueColumn doc family dataTag fieldTag)

include column

/-- The look-ups of a key of the column find the holders of the value. -/
theorem mem_otherHolders_iff_holder (isKey : key ∈ doc.keyIds)
    (asks : AsksForUnique doc family key) :
    other ∈ otherHolders doc family key value ↔
      other ≠ key ∧ other ∈ holders doc family (normalise value) := by
  have byColumn : ∀ custom found, found ∈ doc.references family (doc.key key) value custom ↔
      found ∈ doc.matchesOf custom value (columnTag family dataTag fieldTag) := by
    intro custom found
    rw [Document.references, column.oneTag key isKey asks, List.mem_eraseDups,
      List.flatMap_singleton]
  rw [mem_otherHolders_iff]
  refine and_congr_right fun _ => ?_
  constructor
  · rintro ⟨found, matched, rfl⟩
    rw [byColumn] at matched
    obtain ⟨_, carrier, first, below, carries, listed, accepted⟩ :=
      Document.mem_matchesOf_iff.mp matched
    have inColumn : doc.InColumn dataTag fieldTag found.key := ⟨⟨carrier, first, below⟩, carries⟩
    have isFound := inColumn.mem_keyIds
    have same : normalise value = normalise found.text := by
      simpa [columnTag, ReferenceTag.accepts] using accepted
    exact mem_holders_iff.mpr
      ⟨isFound, (column.ofColumn _ isFound).mpr inColumn, found.text,
        Document.mem_textsOf_iff.mpr listed, same.symm⟩
  · intro held
    obtain ⟨isOther, asksOther, text, listed, same⟩ := mem_holders_iff.mp held
    obtain ⟨⟨carrier, first, below⟩, carries⟩ := (column.ofColumn other isOther).mp asksOther
    refine ⟨⟨(columnTag family dataTag fieldTag).text, other, text⟩, (byColumn _ _).mpr ?_, rfl⟩
    refine Document.mem_matchesOf_iff.mpr
      ⟨rfl, carrier, first, below, carries, Document.mem_textsOf_iff.mp listed, ?_⟩
    simp [columnTag, ReferenceTag.accepts, same]

theorem normalise_eq_of_mem_holders (held : key ∈ holders doc family value) {text : String}
    (listed : text ∈ doc.textsOf key) : normalise text = value := by
  obtain ⟨isKey, asks, own, ownListed, same⟩ := mem_holders_iff.mp held
  obtain ⟨only, texts⟩ := List.length_eq_one_iff.mp (column.oneText key isKey asks)
  rw [texts, List.mem_singleton] at listed ownListed
  rw [listed, ← ownListed]
  exact same

variable (accounts : AccountsFor doc family sets)

include accounts

theorem mem_others_iff_holder (member : set ∈ sets) :
    other ∈ set.others ↔
      other ≠ set.key ∧ other ∈ holders doc family (normalise set.value) :=
  (accounts.mem_others_iff member).trans
    (column.mem_otherHolders_iff_holder (accounts.isKey set member) (accounts.asksForUnique member))

/-- Two sets of one value would list each other's keys, and the later key is not listed. -/
theorem nodup_values : (sets.map fun set => normalise set.value).Nodup := by
  refine List.pairwise_map.mpr ?_
  refine (accounts.inOrder.and accounts.notLocatedLater).imp_of_mem ?_
  intro earlier later earlierIn laterIn apart same
  have laterHolds := accounts.key_mem_holders laterIn
  rw [← same] at laterHolds
  have different : later.key ≠ earlier.key := by
    intro sameKey
    have before := apart.1
    rw [sameKey] at before
    omega
  exact apart.2 ((column.mem_others_iff_holder accounts earlierIn).mpr ⟨different, laterHolds⟩)

/-- A holder that is not the only one is in the set of its value, at its key or after it. -/
theorem exists_set_of_mem_holders (filled : value ≠ "") (held : key ∈ holders doc family value)
    (otherHeld : other ∈ holders doc family value) (different : other ≠ key) :
    ∃ set ∈ sets, normalise set.value = value ∧ set.key.index ≤ key.index := by
  obtain ⟨isKey, asks, text, listed, same⟩ := mem_holders_iff.mp held
  have shared : other ∈ otherHolders doc family key text :=
    (column.mem_otherHolders_iff_holder isKey asks).mpr ⟨different, same ▸ otherHeld⟩
  have filledText : text ∈ filledTexts (doc.textsOf key) :=
    mem_filledTexts_iff.mpr ⟨listed, same ▸ filled⟩
  obtain ⟨_, found, matched, sameKey⟩ := mem_otherHolders_iff.mp shared
  obtain ⟨set, member, place⟩ := accounts.everySharer key isKey text filledText
    ⟨found, matched, sameKey ▸ different⟩
  refine ⟨set, member, ?_, ?_⟩
  · rcases place with atKey | ⟨_, lists⟩
    · have ownListed := (mem_filledTexts_iff.mp (accounts.ownValue set member)).1
      rw [atKey] at ownListed
      exact column.normalise_eq_of_mem_holders held ownListed
    · have inSet := ((column.mem_others_iff_holder accounts member).mp lists).2
      rw [← column.normalise_eq_of_mem_holders inSet listed]
      exact same
  · rcases place with atKey | ⟨before, _⟩
    · rw [atKey]
    · omega

theorem holders_eq_cons (member : set ∈ sets) :
    ∃ rest, holders doc family (normalise set.value) = set.key :: rest ∧
      set.others.Perm rest := by
  have keyHolds := accounts.key_mem_holders member
  have inOrder := pairwise_holders doc family (normalise set.value)
  have distinct := nodup_holders doc family (normalise set.value)
  have filled := (mem_filledTexts_iff.mp (accounts.ownValue set member)).2
  cases order : holders doc family (normalise set.value) with
  | nil =>
      rw [order] at keyHolds
      cases keyHolds
  | cons first rest =>
      rw [order] at inOrder distinct
      have firstHolds : first ∈ holders doc family (normalise set.value) := by
        rw [order]
        exact List.mem_cons_self
      have isFirst : set.key = first := by
        by_contra different
        obtain ⟨other, otherIn, same, place⟩ :=
          column.exists_set_of_mem_holders accounts filled firstHolds keyHolds different
        have sameSet := List.inj_on_of_nodup_map (column.nodup_values accounts) otherIn member same
        rw [order] at keyHolds
        have inRest := (List.mem_cons.mp keyHolds).resolve_left different
        have after := (List.pairwise_cons.mp inOrder).1 set.key inRest
        rw [sameSet] at place
        omega
      subst isFirst
      refine ⟨rest, rfl, ?_⟩
      obtain ⟨absent, distinctRest⟩ := List.nodup_cons.mp distinct
      refine (List.perm_ext_iff_of_nodup (accounts.othersOnce set member) distinctRest).mpr ?_
      intro other
      rw [column.mem_others_iff_holder accounts member, order, List.mem_cons]
      constructor
      · rintro ⟨different, inHolders⟩
        exact inHolders.resolve_left different
      · intro inRest
        exact ⟨fun same => absent (same ▸ inRest), .inr inRest⟩

theorem mem_values_iff :
    value ∈ (sets.map fun set => normalise set.value) ↔
      value ≠ "" ∧ 2 ≤ (holders doc family value).length := by
  rw [List.mem_map]
  constructor
  · rintro ⟨set, member, rfl⟩
    obtain ⟨rest, order, listed⟩ := column.holders_eq_cons accounts member
    have someOther := List.length_pos_iff.mpr (accounts.someOther set member)
    rw [listed.length_eq] at someOther
    rw [order, List.length_cons]
    exact ⟨(mem_filledTexts_iff.mp (accounts.ownValue set member)).2, by omega⟩
  · rintro ⟨filled, shared⟩
    have distinct := nodup_holders doc family value
    match order : holders doc family value with
    | [] | [_] => simp [order] at shared
    | first :: second :: rest =>
        rw [order] at distinct
        have different : second ≠ first := fun same =>
          (List.nodup_cons.mp distinct).1 (same ▸ List.mem_cons_self)
        have firstHolds : first ∈ holders doc family value := by simp [order]
        have secondHolds : second ∈ holders doc family value := by simp [order]
        obtain ⟨set, member, same, _⟩ :=
          column.exists_set_of_mem_holders accounts filled firstHolds secondHolds different
        exact ⟨set, member, same⟩

end UniqueColumn

/-- In a column of unique values there is one issue for each value that two keys hold. It is at the first
holder and lists each of the others once. -/
theorem one_issue_per_shared_value (scene : Scene) (config : Json)
    (column : UniqueColumn scene.model (familyInUse scene config) dataTag fieldTag) :
    ∃ sets, (Rule.uniqueness.find scene config).issues = sets.map (duplicateIssue scene) ∧
      (∀ set ∈ sets, Tells scene (duplicateIssue scene set) set ∧
        set.value ∈ scene.model.textsOf set.key) ∧
      OneSetPerValue scene.model (familyInUse scene config) sets := by
  have accounts := accountsFor_duplicateSets scene.model (familyInUse scene config)
  refine ⟨_, findDuplicates_issues scene config, ?_, ?_⟩
  · intro set member
    exact ⟨duplicateIssue_tells scene set, (mem_filledTexts_iff.mp (accounts.ownValue set member)).1⟩
  · exact
      { inOrder := accounts.inOrder
        valuesOnce := column.nodup_values accounts
        values := fun _ => column.mem_values_iff accounts
        members := fun _ member => column.holders_eq_cons accounts member }

/-- Six assets with three names, two of which are given more than once. -/
def repeatedNames : Document :=
  let named := fun text => Node.map
    [(.withTags "name" ["asset-name", "unique/assets-data/asset-name"], .ofString text)]
  .ofNode (.map [(.withTags "assets" ["assets-data"],
    .list [named "DB", named "Keys", named " db", named "Vault", named "keys ", named "Db"])])

def sceneOfRepeatedNames : Scene :=
  { sceneOfSharedNames with model := repeatedNames, rows := .build repeatedNames }

theorem one_issue_per_repeated_name :
    UniqueColumn repeatedNames (familyInUse sceneOfRepeatedNames .null) "assets-data" "asset-name" ∧
    holders repeatedNames "unique" "db" = [⟨1⟩, ⟨3⟩, ⟨6⟩] ∧
    holders repeatedNames "unique" "keys" = [⟨2⟩, ⟨5⟩] ∧
    ∃ sets, (Rule.uniqueness.find sceneOfRepeatedNames .null).issues =
        sets.map (duplicateIssue sceneOfRepeatedNames) ∧
      (∀ set ∈ sets, Tells sceneOfRepeatedNames (duplicateIssue sceneOfRepeatedNames set) set ∧
        set.value ∈ repeatedNames.textsOf set.key) ∧
      OneSetPerValue repeatedNames (familyInUse sceneOfRepeatedNames .null) sets := by
  have column : UniqueColumn repeatedNames (familyInUse sceneOfRepeatedNames .null) "assets-data"
      "asset-name" :=
    ⟨by decide +kernel, by decide +kernel, by decide +kernel⟩
  have databases : holders repeatedNames "unique" "db" = [⟨1⟩, ⟨3⟩, ⟨6⟩] := by decide +kernel
  have keys : holders repeatedNames "unique" "keys" = [⟨2⟩, ⟨5⟩] := by decide +kernel
  exact ⟨column, databases, keys, one_issue_per_shared_value sceneOfRepeatedNames .null column⟩

end Rule

end ThreatModel
