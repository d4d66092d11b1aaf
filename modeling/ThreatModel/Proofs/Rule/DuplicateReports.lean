import ThreatModel.Proofs.Rule.Duplicates

/-!
How the reported sets of duplicates lie to each other. Sets come in the order of the keys at which they
begin, and a key that a set lists begins no later one. Every key that shares a value is in some set. The
comparisons of the tags need not be symmetric for this, as only the listing key's own look-ups count.
-/

namespace ThreatModel.Rule

variable {doc : Document} {family value : String} {reported keys : List KeyId} {key other : KeyId}
  {set : DuplicateSet}

theorem key_of_mem_duplicateSets (member : set ∈ duplicateSets doc family reported keys) :
    set.key ∈ keys ∧ set.key ∉ reported := by
  fun_induction duplicateSets doc family reported keys with
  | case1 reported => cases member
  | case2 reported key rest seen ih =>
      obtain ⟨inRest, fresh⟩ := ih member
      exact ⟨List.mem_cons_of_mem key inRest, fresh⟩
  | case3 reported key rest unseen absent ih =>
      obtain ⟨inRest, fresh⟩ := ih member
      exact ⟨List.mem_cons_of_mem key inRest, fresh⟩
  | case4 reported key rest unseen first found ih =>
      rcases List.mem_cons.mp member with rfl | later
      · have startsHere := (duplicateSet?_eq_some_iff.mp found).1
        rw [startsHere]
        exact ⟨List.mem_cons_self, by simpa using unseen⟩
      · obtain ⟨inRest, fresh⟩ := ih later
        have unreported : set.key ∉ reported := fun listed =>
          fresh (List.mem_append_right _ listed)
        exact ⟨List.mem_cons_of_mem key inRest, unreported⟩

/-- A later set begins at a later key, which no earlier set lists. -/
theorem pairwise_duplicateSets
    (inOrder : keys.Pairwise fun left right => left.index < right.index) :
    (duplicateSets doc family reported keys).Pairwise fun earlier later =>
      earlier.key.index < later.key.index ∧ later.key ∉ earlier.others := by
  fun_induction duplicateSets doc family reported keys with
  | case1 reported => exact .nil
  | case2 reported key rest seen ih => exact ih inOrder.tail
  | case3 reported key rest unseen absent ih => exact ih inOrder.tail
  | case4 reported key rest unseen first found ih =>
      have startsHere := (duplicateSet?_eq_some_iff.mp found).1
      refine List.pairwise_cons.mpr ⟨?_, ih inOrder.tail⟩
      intro later member
      obtain ⟨inRest, fresh⟩ := key_of_mem_duplicateSets member
      have after := (List.pairwise_cons.mp inOrder).1 later.key inRest
      have unlisted : later.key ∉ first.others := fun listed =>
        fresh (List.mem_append_left _ (List.mem_cons_of_mem key listed))
      exact ⟨startsHere ▸ after, unlisted⟩

/-- A key with a value that others hold begins a set, or a set that begins before it lists it. -/
theorem exists_set_of_holder (isKey : key ∈ doc.keyIds)
    (listed : value ∈ filledTexts (doc.textsOf key))
    (held : other ∈ otherHolders doc family key value) :
    ∃ set ∈ duplicateSets doc family [] doc.keyIds,
      set.key = key ∨ set.key.index < key.index ∧ key ∈ set.others := by
  obtain ⟨own, found⟩ := exists_duplicateSet?_of_holder listed held
  obtain ⟨before, after, order⟩ := List.append_of_mem isKey
  rcases mem_duplicateSets_or_listed before after found List.not_mem_nil with
    begun | ⟨set, member, earlier, lists⟩
  · rw [← order] at begun
    exact ⟨own, begun, .inl (duplicateSet?_eq_some_iff.mp found).1⟩
  · rw [← order] at member
    exact ⟨set, member, .inr ⟨Document.index_lt_of_keyIds_eq order earlier, lists⟩⟩

/-- The sets account for the values that keys share: no finding is repeated, none is made up, and no key
that shares a value is left out. -/
structure AccountsFor (doc : Document) (family : String) (sets : List DuplicateSet) : Prop where
  isKey : ∀ set ∈ sets, set.key ∈ doc.keyIds
  inOrder : sets.Pairwise fun earlier later => earlier.key.index < later.key.index
  locatedOnce : (sets.map (·.key)).Nodup
  notLocatedLater : sets.Pairwise fun earlier later => later.key ∉ earlier.others
  ownValue : ∀ set ∈ sets, set.value ∈ filledTexts (doc.textsOf set.key)
  someOther : ∀ set ∈ sets, set.others ≠ []
  othersOnce : ∀ set ∈ sets, set.others.Nodup
  othersFound : ∀ set ∈ sets, ∀ other, other ∈ set.others ↔ other ≠ set.key ∧
    ∃ found ∈ doc.references family (doc.key set.key) set.value
      (some (otherSectionComparison doc set.key)), found.key = other
  everySharer : ∀ key ∈ doc.keyIds, ∀ value ∈ filledTexts (doc.textsOf key),
    (∃ found ∈ doc.references family (doc.key key) value (some (otherSectionComparison doc key)),
      found.key ≠ key) →
    ∃ set ∈ sets, set.key = key ∨ set.key.index < key.index ∧ key ∈ set.others

theorem accountsFor_duplicateSets (doc : Document) (family : String) :
    AccountsFor doc family (duplicateSets doc family [] doc.keyIds) := by
  have pairs : (duplicateSets doc family [] doc.keyIds).Pairwise fun earlier later =>
      earlier.key.index < later.key.index ∧ later.key ∉ earlier.others :=
    pairwise_duplicateSets doc.pairwise_keyIds
  have inOrder := pairs.imp And.left
  have begun : ∀ {set}, set ∈ duplicateSets doc family [] doc.keyIds →
      set.others = otherHolders doc family set.key set.value ∧ set.others ≠ [] ∧
        set.value ∈ filledTexts (doc.textsOf set.key) := by
    intro set member
    obtain ⟨_, others, nonempty, before, after, order, _⟩ :=
      duplicateSet?_eq_some_iff.mp (duplicateSet?_of_mem_duplicateSets member)
    refine ⟨others, nonempty, ?_⟩
    rw [order]
    exact List.mem_append_right _ List.mem_cons_self
  refine ⟨?_, inOrder, ?_, pairs.imp And.right, ?_, ?_, ?_, ?_, ?_⟩
  · intro set member
    exact (key_of_mem_duplicateSets member).1
  · refine List.pairwise_map.mpr (inOrder.imp ?_)
    intro earlier later before same
    rw [same] at before
    omega
  · intro set member
    exact (begun member).2.2
  · intro set member
    exact (begun member).2.1
  · intro set member
    rw [(begun member).1]
    exact nodup_eraseDups _
  · intro set member other
    rw [(begun member).1]
    exact mem_otherHolders_iff
  · intro key isKey value listed shared
    obtain ⟨found, matched, different⟩ := shared
    have held : found.key ∈ otherHolders doc family key value :=
      mem_otherHolders_iff.mpr ⟨different, found, matched, rfl⟩
    exact exists_set_of_holder isKey listed held

/-- What an issue lists as duplicates. -/
def listedDuplicates? (issue : Issue) : Option Json :=
  issue.data.bind (·.member? "duplicates")

/-- The issue is located at the key of the set, and tells its value and what the others are called. -/
structure Tells (scene : Scene) (issue : Issue) (set : DuplicateSet) : Prop where
  table : issue.table = scene.model.sectionName? set.key
  row : issue.row = scene.rows.label? scene.model set.key
  value : reportedValue? issue = some set.value
  duplicates : listedDuplicates? issue = some (.ofStrings (set.others.map (holderLabel scene)))

theorem duplicateIssue_tells (scene : Scene) (set : DuplicateSet) :
    Tells scene (duplicateIssue scene set) set :=
  ⟨rfl, rfl, rfl, rfl⟩

/-- Whatever the tags compare, the issues tell of sets that account for the shared values. -/
theorem duplicates_accounted_for (scene : Scene) (config : Json) :
    ∃ sets, (Rule.uniqueness.find scene config).issues = sets.map (duplicateIssue scene) ∧
      (∀ set ∈ sets, Tells scene (duplicateIssue scene set) set) ∧
      AccountsFor scene.model (familyInUse scene config) sets :=
  ⟨_, findDuplicates_issues scene config, fun set _ => duplicateIssue_tells scene set,
    accountsFor_duplicateSets _ _⟩

/-- Two names, the second of which ends with the first. -/
def nameEndings : Document :=
  let name := Key.withTags "name" ["asset-name", "unique/assets-data/asset-name/endswith"]
  .ofNode (.map [(.withTags "assets" ["assets-data"],
    .list [.map [(name, .ofString "DB")], .map [(name, .ofString "Main DB")]])])

-- The first name finds nothing, so the set begins at the second one and lists a key before it.
example : duplicateSets nameEndings "unique" [] nameEndings.keyIds = [⟨⟨2⟩, "Main DB", [⟨1⟩]⟩] := by
  decide +kernel

end ThreatModel.Rule
