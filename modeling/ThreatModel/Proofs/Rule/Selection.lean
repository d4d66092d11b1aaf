import Mathlib.Tactic.ByContra
import Mathlib.Tactic.Push
import ThreatModel.Proofs.FirstWhere
import ThreatModel.Rule.All

/-!
Which keys a condition is about. A key is selected if it carries the tag or has the name that the
condition gives, and of the other entries of its row the first one selected decides. So a name counts
beside a tag and not only in place of one. Where no name stands in the way of a tag, both come to the
same.
-/

namespace ThreatModel.Rule.Condition

variable {doc : Document} {selector : String} {key : KeyId}
  {entries : List (KeyId × Item)} {entry other : KeyId × Item} {condition : Condition} {scene : Scene}
  {issue : Issue}

def Tagged (doc : Document) (selector : String) (key : KeyId) : Prop :=
  (doc.key key).hasTag selector = true

instance : Decidable (Tagged doc selector key) :=
  inferInstanceAs (Decidable ((doc.key key).hasTag selector = true))

def Named (doc : Document) (selector : String) (key : KeyId) : Prop :=
  (doc.key key).name = selector

instance : Decidable (Named doc selector key) :=
  inferInstanceAs (Decidable ((doc.key key).name = selector))

def Selected (doc : Document) (selector : String) (key : KeyId) : Prop :=
  Tagged doc selector key ∨ Named doc selector key

instance : Decidable (Selected doc selector key) :=
  inferInstanceAs (Decidable (_ ∨ _))

def FirstSelected (doc : Document) (selector : String) :
    List (KeyId × Item) → KeyId × Item → Prop :=
  FirstWhere fun entry => Selected doc selector entry.1

theorem selects_iff : selects selector (doc.key key) = true ↔ Selected doc selector key := by
  rw [selects, Bool.or_eq_true, beq_iff_eq, Selected, Tagged, Named]

theorem exists_firstSelected (member : entry ∈ entries) (selected : Selected doc selector entry.1) :
    ∃ first, FirstSelected doc selector entries first :=
  FirstWhere.exists_of_mem member selected

/-- The first entry with the tag or, where no entry carries it, the first one with the name. -/
def FirstByTag (doc : Document) (selector : String) (entries : List (KeyId × Item))
    (entry : KeyId × Item) : Prop :=
  FirstWhere (fun entry => Tagged doc selector entry.1) entries entry ∨
    (∀ other ∈ entries, ¬ Tagged doc selector other.1) ∧
      FirstWhere (fun entry => Named doc selector entry.1) entries entry

/-- No entry that only has the name stands before all those with the tag. -/
def TagLeads (doc : Document) (selector : String) (entries : List (KeyId × Item)) : Prop :=
  ∀ before entry after, entries = before ++ entry :: after → Named doc selector entry.1 →
    ¬ Tagged doc selector entry.1 → (∃ later ∈ after, Tagged doc selector later.1) →
    ∃ earlier ∈ before, Tagged doc selector earlier.1

theorem tagLeads_iff :
    TagLeads doc selector entries ↔ ∀ entry, FirstSelected doc selector entries entry →
      (∃ other ∈ entries, Tagged doc selector other.1) → Tagged doc selector entry.1 := by
  constructor
  · rintro leads entry isFirst ⟨other, member, tagged⟩
    obtain ⟨before, after, rfl, noneBefore⟩ := isFirst.noneBefore
    rcases List.mem_append.mp member with early | rest
    · exact absurd (.inl tagged) (noneBefore other early)
    rcases List.mem_cons.mp rest with rfl | late
    · exact tagged
    rcases isFirst.holds with entryTagged | named
    · exact entryTagged
    · by_contra untagged
      obtain ⟨earlier, early, earlierTagged⟩ :=
        leads before entry after rfl named untagged ⟨other, late, tagged⟩
      exact noneBefore earlier early (.inl earlierTagged)
  · rintro firstTagged before entry after rfl named untagged ⟨later, late, laterTagged⟩
    have inFrontPart : entry ∈ before ++ [entry] := List.mem_concat_self
    obtain ⟨first, isFirst⟩ := exists_firstSelected inFrontPart (.inr named)
    -- What comes first up to the entry comes first of all.
    have firstOfAll : FirstSelected doc selector (before ++ entry :: after) first := by
      rw [List.append_cons]
      exact isFirst.append after
    have tagged := firstTagged first firstOfAll
      ⟨later, List.mem_append_right _ (List.mem_cons_of_mem _ late), laterTagged⟩
    rcases List.mem_append.mp isFirst.mem with inFront | isEntry
    · exact ⟨first, inFront, tagged⟩
    · obtain rfl := List.mem_singleton.mp isEntry
      exact absurd tagged untagged

theorem TagLeads.firstSelected_iff (leads : TagLeads doc selector entries) :
    FirstSelected doc selector entries entry ↔ FirstByTag doc selector entries entry := by
  rw [tagLeads_iff] at leads
  constructor
  · intro isFirst
    by_cases someTagged : ∃ other ∈ entries, Tagged doc selector other.1
    · exact .inl (isFirst.of_imp (fun _ => .inl) (leads entry isFirst someTagged))
    · push Not at someTagged
      have named := isFirst.holds.resolve_left (someTagged entry isFirst.mem)
      exact .inr ⟨someTagged, isFirst.of_imp (fun _ => .inr) named⟩
  · rintro (firstTagged | ⟨untagged, firstNamed⟩)
    · obtain ⟨first, isFirst⟩ := exists_firstSelected firstTagged.mem (.inl firstTagged.holds)
      have tagged := leads first isFirst ⟨entry, firstTagged.mem, firstTagged.holds⟩
      rwa [firstTagged.unique (isFirst.of_imp (fun _ => .inl) tagged)]
    · obtain ⟨before, after, order, noneBefore⟩ := firstNamed.noneBefore
      refine ⟨.inr firstNamed.holds, before, after, order, fun earlier early => ?_⟩
      rintro (tagged | named)
      · exact untagged earlier (order ▸ List.mem_append_left _ early) tagged
      · exact noneBefore earlier early named

/-- The other entries of the row of a key. -/
def others (doc : Document) (key : KeyId) : List (KeyId × Item) :=
  (doc.entriesOf (doc.ownerOf key)).filter fun entry => entry.1 != key

theorem dependency?_eq_some_iff :
    condition.dependency? doc key = some other ↔
      FirstSelected doc condition.dependsOn (others doc key) other := by
  have tests : ∀ entry : KeyId × Item, selects condition.dependsOn (doc.key entry.1) = true ↔
      Selected doc condition.dependsOn entry.1 := fun _ => selects_iff
  rw [FirstSelected, ← FirstWhere.find?_eq_some_iff tests, others, List.find?_filter, dependency?]
  simp only [Bool.decide_and, Bool.decide_eq_true]

/-- The condition asks for the key, where `isField` says which keys are its fields and `decides` which
entry decides about a field. -/
structure AsksBy (condition : Condition) (doc : Document) (isField : KeyId → Prop)
    (decides : KeyId → KeyId × Item → Prop) (key : KeyId) (other : KeyId × Item) : Prop where
  isKey : key ∈ doc.keyIds
  isField : isField key
  empty : (doc.valueOf key).isEmptyValue = true
  decides : decides key other
  fires : condition.fires other.2 = true

def Asks (condition : Condition) (doc : Document) : KeyId → KeyId × Item → Prop :=
  condition.AsksBy doc (Selected doc condition.field)
    fun key => FirstSelected doc condition.dependsOn (others doc key)

/-- Names count only where there is no tag: for the fields in the model, for what decides in the row. -/
def AsksByTag (condition : Condition) (doc : Document) : KeyId → KeyId × Item → Prop :=
  condition.AsksBy doc
    (fun key => Tagged doc condition.field key ∨
      Named doc condition.field key ∧ ∀ other ∈ doc.keyIds, ¬ Tagged doc condition.field other)
    fun key => FirstByTag doc condition.dependsOn (others doc key)

def askedIssue (scene : Scene) (condition : Condition) (key : KeyId) (other : KeyId × Item) : Issue :=
  let actual := String.intercalate "\n" other.2.texts
  scene.issueAt key .error "missing-conditional-mandatory"
    [("field", scene.model.label key), ("depends-on", scene.model.label other.1),
      ("depends-on-value", condition.expected.getD actual)]
    (.object [("key", .string (scene.model.key key).name),
      ("depends-on", .string (scene.model.key other.1).name), ("depends-on-value", .string actual)]) none

theorem issue?_eq_some_iff :
    condition.issue? scene key = some issue ↔
      ∃ other, FirstSelected scene.model condition.dependsOn (others scene.model key) other ∧
        condition.fires other.2 = true ∧ issue = askedIssue scene condition key other := by
  simp only [issue?, Option.bind_eq_bind, Option.bind_eq_some_iff, dependency?_eq_some_iff,
    Option.ite_none_right_eq_some, Option.some.injEq, eq_comm (a := issue)]
  rfl

theorem mem_emptyFields_iff :
    key ∈ condition.emptyFields doc ↔ key ∈ doc.keyIds ∧ Selected doc condition.field key ∧
      (doc.valueOf key).isEmptyValue = true := by
  rw [emptyFields, List.mem_filter, Bool.and_eq_true, selects_iff]

/-- A key counts as a field by its name only where no key carries the tag, and a field without value goes
by an entry with the tag wherever another entry of its row carries it. -/
structure TagsFirst (condition : Condition) (doc : Document) : Prop where
  fields : ∀ key ∈ doc.keyIds, Selected doc condition.field key → ¬ Tagged doc condition.field key →
    ∀ other ∈ doc.keyIds, ¬ Tagged doc condition.field other
  decides : ∀ key ∈ condition.emptyFields doc, ∀ other, condition.dependency? doc key = some other →
    (∃ entry ∈ others doc key, Tagged doc condition.dependsOn entry.1) →
    Tagged doc condition.dependsOn other.1

/-- A name stands nowhere in the way of a tag. -/
structure Unmixed (condition : Condition) (doc : Document) : Prop where
  fields : (∃ key ∈ doc.keyIds, Tagged doc condition.field key) →
    ∀ key ∈ doc.keyIds, Named doc condition.field key → Tagged doc condition.field key
  rows : ∀ key ∈ condition.emptyFields doc, TagLeads doc condition.dependsOn (others doc key)

theorem tagsFirst_iff_unmixed : condition.TagsFirst doc ↔ condition.Unmixed doc := by
  have rows : (∀ key ∈ condition.emptyFields doc, ∀ other, condition.dependency? doc key = some other →
      (∃ entry ∈ others doc key, Tagged doc condition.dependsOn entry.1) →
      Tagged doc condition.dependsOn other.1) ↔
        ∀ key ∈ condition.emptyFields doc, TagLeads doc condition.dependsOn (others doc key) := by
    simp only [dependency?_eq_some_iff, tagLeads_iff]
  constructor
  · intro first
    refine ⟨fun ⟨other, isKey, tagged⟩ key listed named => ?_, rows.mp first.decides⟩
    by_contra untagged
    exact first.fields key listed (.inr named) untagged other isKey tagged
  · intro unmixed
    refine ⟨fun key listed selected untagged other isKey tagged => ?_, rows.mpr unmixed.rows⟩
    exact untagged (unmixed.fields ⟨other, isKey, tagged⟩ key listed (selected.resolve_left untagged))

theorem TagsFirst.asks_iff (first : condition.TagsFirst doc) :
    condition.Asks doc key other ↔ condition.AsksByTag doc key other := by
  have decides : key ∈ doc.keyIds → Selected doc condition.field key →
      (doc.valueOf key).isEmptyValue = true →
      (FirstSelected doc condition.dependsOn (others doc key) other ↔
        FirstByTag doc condition.dependsOn (others doc key) other) := by
    intro isKey selected empty
    have leads := (tagsFirst_iff_unmixed.mp first).rows key
      (mem_emptyFields_iff.mpr ⟨isKey, selected, empty⟩)
    exact leads.firstSelected_iff
  constructor
  · rintro ⟨isKey, selected, empty, isFirst, fires⟩
    refine ⟨isKey, ?_, empty, (decides isKey selected empty).mp isFirst, fires⟩
    by_cases tagged : Tagged doc condition.field key
    · exact .inl tagged
    · exact .inr ⟨selected.resolve_left tagged, first.fields key isKey selected tagged⟩
  · rintro ⟨isKey, isField, empty, isFirst, fires⟩
    have selected : Selected doc condition.field key := isField.imp_right fun field => field.1
    exact ⟨isKey, selected, empty, (decides isKey selected empty).mpr isFirst, fires⟩

/-- The rule asks for the fields without value that are selected by tag or by name, each by the first
other entry of its row that is. Tags come first exactly where no name stands in their way, and there the
rule asks for what it would ask for if names only stood in for tags. -/
theorem asked_by_tag_or_name (scene : Scene) (config : Json) :
    (∀ issue, issue ∈ (Rule.conditionalMandatory.find scene config).issues ↔
      ∃ condition ∈ (readAll? config).getD [], ∃ key other,
        condition.Asks scene.model key other ∧ issue = askedIssue scene condition key other) ∧
    ∀ condition : Condition,
      (condition.TagsFirst scene.model ↔ condition.Unmixed scene.model) ∧
      (condition.TagsFirst scene.model → ∀ key other,
        condition.Asks scene.model key other ↔ condition.AsksByTag scene.model key other) := by
  refine ⟨fun issue => ?_, fun condition => ⟨tagsFirst_iff_unmixed, fun first _ _ => first.asks_iff⟩⟩
  rw [find, findConditional, Findings.ofIssues, List.mem_flatMap]
  refine exists_congr fun condition => and_congr_right fun _ => ?_
  simp only [List.mem_filterMap, mem_emptyFields_iff, issue?_eq_some_iff]
  constructor
  · rintro ⟨key, ⟨isKey, selected, empty⟩, other, isFirst, fires, said⟩
    exact ⟨key, other, ⟨isKey, selected, empty, isFirst, fires⟩, said⟩
  · rintro ⟨key, other, ⟨isKey, selected, empty, isFirst, fires⟩, said⟩
    exact ⟨key, ⟨isKey, selected, empty⟩, other, isFirst, fires, said⟩

/-- Threats with controls. The control is tagged, but one row names a key like the tag; the identifier is
tagged, but it stands behind a key that is named like its tag. -/
def controls : Document :=
  let field := fun name tags text => (Key.withTags name tags, Node.ofString text)
  .ofNode (.map [(.withTags "threats" [], .list [
    .map [field "threat" [] "Spoofing", field "control" ["mitigation"] "Signing",
      field "mitigation" [] ""],
    .map [field "threat" [] "", field "threat-id" ["threat"] "T2", field "control" ["mitigation"] ""]])])

/-- The key `mitigation` counts as a field beside the tagged ones. For the second control the blank
`threat` decides, though the row holds the tagged identifier. -/
theorem name_counts_beside_tag :
    ¬ ((∀ (condition : Condition) (doc : Document), ∀ key ∈ doc.keyIds,
        Selected doc condition.field key → ¬ Tagged doc condition.field key →
          ∀ other ∈ doc.keyIds, ¬ Tagged doc condition.field other) ∨
      ∀ (condition : Condition) (doc : Document), ∀ key ∈ condition.emptyFields doc, ∀ other,
        condition.dependency? doc key = some other →
        (∃ entry ∈ others doc key, Tagged doc condition.dependsOn entry.1) →
        Tagged doc condition.dependsOn other.1) := by
  let condition : Condition := ⟨"mitigation", "threat", none⟩
  rintro (fields | decides)
  · have selected : Selected controls "mitigation" ⟨3⟩ := by decide +kernel
    have untagged : ¬ Tagged controls "mitigation" ⟨3⟩ := by decide +kernel
    have tagged : Tagged controls "mitigation" ⟨2⟩ := by decide +kernel
    have isKey : (⟨2⟩ : KeyId) ∈ controls.keyIds := by decide +kernel
    exact fields condition controls ⟨3⟩ (by decide +kernel) selected untagged ⟨2⟩ isKey tagged
  · have decided : (condition.dependency? controls ⟨6⟩).map (·.1) = some ⟨4⟩ := by decide +kernel
    have someTagged : (others controls ⟨6⟩).any (fun entry => Tagged controls "threat" entry.1) := by
      decide +kernel
    have untagged : ¬ Tagged controls "threat" ⟨4⟩ := by decide +kernel
    obtain ⟨other, found, isBlank⟩ := Option.map_eq_some_iff.mp decided
    have tagged := decides condition controls ⟨6⟩ (by decide +kernel) other found
      (by simpa using someTagged)
    rw [isBlank] at tagged
    exact untagged tagged

end ThreatModel.Rule.Condition
