import ThreatModel.Proofs.Rule.Unresolved
import ThreatModel.Proofs.Verification.Frame

/-!
Which values the template approves. Keys are marked, not values: marking goes by all the values of a key
together, and a marked key accepts each of them. So a value that is found nowhere else is not accepted
when it stands beside one that is.
-/

namespace ThreatModel.Rule

variable {doc template : Document} {conventions : Conventions} {family name value : String}
  {key : KeyId}

/-- A value is accepted through a key of the template: the key is marked, and one of its texts is the
value, up to case and blanks. -/
structure AcceptedThrough (template : Document) (key : KeyId) (value : String) : Prop where
  marked : (template.key key).property? Property.preApproved = some (.bool true)
  listed : ∃ text ∈ template.textsOf key, normalise text = normalise value

theorem isApproved_iff_acceptedThrough :
    isApproved template name value = true ↔ ∃ key ∈ template.keyIds,
      (template.key key).name = name ∧ AcceptedThrough template key value := by
  rw [isApproved_iff]
  constructor
  · rintro ⟨key, isKey, named, marked, listed⟩
    exact ⟨key, isKey, named, marked, listed⟩
  · rintro ⟨key, isKey, named, marked, listed⟩
    exact ⟨key, isKey, named, marked, listed⟩

/-- A reference of the key leads from the value to another key of the document. -/
def LeadsElsewhere (doc : Document) (family : String) (key : KeyId) (value : String) : Prop :=
  ∃ tag carrier found, doc.Resolves family (doc.key key) value none tag carrier found ∧
    found.key ≠ key

theorem findsNoOther_iff_not_leadsElsewhere :
    findsNoOther doc family key value = true ↔ ¬ LeadsElsewhere doc family key value := by
  rw [findsNoOther_iff, LeadsElsewhere]
  push Not
  rfl

/-- Without a comparison of the caller's, a reference compares normal forms. -/
theorem leadsElsewhere_congr {first second : String} (same : normalise first = normalise second) :
    LeadsElsewhere doc family key first ↔ LeadsElsewhere doc family key second := by
  have accepts : ∀ (tag : ReferenceTag) found text,
      tag.accepts none first found text = tag.accepts none second found text := by
    intro tag found text
    rw [ReferenceTag.accepts, ReferenceTag.accepts, same]
  have resolves : ∀ tag carrier found,
      doc.Resolves family (doc.key key) first none tag carrier found ↔
        doc.Resolves family (doc.key key) second none tag carrier found := by
    intro tag carrier found
    constructor <;> intro resolved <;> refine { resolved with accepted := ?_ }
    · rw [← accepts]
      exact resolved.accepted
    · rw [accepts]
      exact resolved.accepted
  simp only [LeadsElsewhere, resolves]

theorem approves_iff :
    approves template conventions key = true ↔
      HasReference conventions.templateFamily (template.key key) ∧
        filledTexts (template.textsOf key) ≠ [] ∧
        ∀ text ∈ filledTexts (template.textsOf key),
          ¬ LeadsElsewhere template conventions.documentFamily key text := by
  simp only [approves, Bool.and_eq_true, refersBy_iff, Bool.not_eq_true', List.isEmpty_eq_false_iff,
    List.all_eq_true, findsNoOther_iff_not_leadsElsewhere, and_assoc, ne_eq]

theorem preApproved_markApproved_iff (isKey : key ∈ template.keyIds) :
    ((markApproved template conventions).key key).property? Property.preApproved = some (.bool true) ↔
      (template.key key).property? Property.preApproved = some (.bool true) ∨
        approves template conventions key = true := by
  rw [markApproved_eq_written]
  by_cases approved : approves template conventions key = true
  · have noted : ⟨key, Property.preApproved, .bool true⟩ ∈ approvals template conventions :=
      List.mem_map_of_mem (List.mem_filter.mpr ⟨isKey, approved⟩)
    refine iff_of_true (Document.property?_written isKey noted ?_) (.inr approved)
    rintro other member - -
    obtain ⟨_, _, rfl⟩ := List.mem_map.mp member
    rfl
  · have unmarked : ∀ note ∈ approvals template conventions, note.key ≠ key := by
      rintro note member rfl
      obtain ⟨marked, listed, rfl⟩ := List.mem_map.mp member
      exact approved (List.mem_filter.mp listed).2
    rw [Document.key_written_of_unmarked unmarked, or_iff_left approved]

/-- A value of a key that refers to the template is accepted through the key exactly if the key was
marked already, or if none of the filled texts of the key leads to another key. So the law goes by the
single value where all the filled texts of a key have one normal form. -/
theorem acceptedThrough_markApproved_iff (isKey : key ∈ template.keyIds)
    (refers : HasReference conventions.templateFamily (template.key key))
    (listed : value ∈ filledTexts (template.textsOf key)) :
    (AcceptedThrough (markApproved template conventions) key value ↔
      (template.key key).property? Property.preApproved = some (.bool true) ∨
        ∀ text ∈ filledTexts (template.textsOf key),
          ¬ LeadsElsewhere template conventions.documentFamily key text) ∧
    ((template.key key).property? Property.preApproved ≠ some (.bool true) →
      (∀ text ∈ filledTexts (template.textsOf key), normalise text = normalise value) →
      (AcceptedThrough (markApproved template conventions) key value ↔
        ¬ LeadsElsewhere template conventions.documentFamily key value)) ∧
    ∀ name, isApproved (markApproved template conventions) name value = true ↔
      ∃ other ∈ template.keyIds, (template.key other).name = name ∧
        AcceptedThrough (markApproved template conventions) other value := by
  have annotated := annotates_markApproved template conventions
  have byKey : AcceptedThrough (markApproved template conventions) key value ↔
      (template.key key).property? Property.preApproved = some (.bool true) ∨
        ∀ text ∈ filledTexts (template.textsOf key),
          ¬ LeadsElsewhere template conventions.documentFamily key text := by
    have filled : filledTexts (template.textsOf key) ≠ [] := List.ne_nil_of_mem listed
    have holds : ∃ text ∈ (markApproved template conventions).textsOf key,
        normalise text = normalise value := by
      rw [annotated.textsOf_eq]
      exact ⟨value, List.mem_of_mem_filter listed, rfl⟩
    have marked : ((markApproved template conventions).key key).property? Property.preApproved =
        some (.bool true) ↔ _ := preApproved_markApproved_iff isKey
    rw [approves_iff] at marked
    constructor
    · intro accepted
      exact (marked.mp accepted.marked).imp_right fun approved => approved.2.2
    · intro cause
      exact ⟨marked.mpr (cause.imp_right fun nowhere => ⟨refers, filled, nowhere⟩), holds⟩
  refine ⟨byKey, fun unmarked oneForm => ?_, fun name => ?_⟩
  · rw [byKey, or_iff_right unmarked]
    constructor
    · exact fun nowhere => nowhere value listed
    · intro valueNowhere text member
      rwa [leadsElsewhere_congr (oneForm text member)]
  · rw [isApproved_iff_acceptedThrough, annotated.keyIds]
    simp only [(annotated.keys _).name]

/-- A template with one category, and a key of defaults that are looked up among the categories. -/
def templateOfDefaults (defaults : Node) : Document :=
  .ofNode (.map [
    (.withTags "categories" ["categories-data"], .list [
      .map [(.withTags "category-name" ["category-name"], .ofString "Spoofing")]]),
    (.withTags "defaults" [], .list [
      .map [(.withTags "category" ["template-ref/categories-data/category-name",
        "ref/categories-data/category-name"], defaults)]])])

theorem other_accepted :
    (⟨3⟩ : KeyId) ∈ (templateOfDefaults (.ofString "Other")).keyIds ∧
    HasReference "template-ref" ((templateOfDefaults (.ofString "Other")).key ⟨3⟩) ∧
    "Other" ∈ filledTexts ((templateOfDefaults (.ofString "Other")).textsOf ⟨3⟩) ∧
    AcceptedThrough (markApproved (templateOfDefaults (.ofString "Other")) .standard) ⟨3⟩ "Other" := by
  have isKey : (⟨3⟩ : KeyId) ∈ (templateOfDefaults (.ofString "Other")).keyIds := by decide +kernel
  have refers : HasReference Conventions.standard.templateFamily
      ((templateOfDefaults (.ofString "Other")).key ⟨3⟩) := refersBy_iff.mp (by decide +kernel)
  have listed : "Other" ∈ filledTexts ((templateOfDefaults (.ofString "Other")).textsOf ⟨3⟩) := by
    decide +kernel
  have unmarked : ((templateOfDefaults (.ofString "Other")).key ⟨3⟩).property? Property.preApproved =
      none := by decide +kernel
  have oneForm : ∀ text ∈ filledTexts ((templateOfDefaults (.ofString "Other")).textsOf ⟨3⟩),
      normalise text = normalise "Other" := by decide +kernel
  have nowhere : ¬ LeadsElsewhere (templateOfDefaults (.ofString "Other")) "ref" ⟨3⟩ "Other" :=
    findsNoOther_iff_not_leadsElsewhere.mp (by decide +kernel)
  exact ⟨isKey, refers, listed,
    ((acceptedThrough_markApproved_iff isKey refers listed).2.1 (by simp [unmarked]) oneForm).mpr nowhere⟩

/-- `Other` is no category, but it stands beside one that is. -/
theorem beside_category_not_accepted :
    ¬ ∀ (template : Document) (conventions : Conventions), ∀ key ∈ template.keyIds,
      HasReference conventions.templateFamily (template.key key) →
      ∀ value ∈ filledTexts (template.textsOf key),
        (AcceptedThrough (markApproved template conventions) key value ↔
          ¬ LeadsElsewhere template conventions.documentFamily key value) := by
  intro byValue
  let template := templateOfDefaults (.list [.ofString "Spoofing", .ofString "Other"])
  have refers : HasReference Conventions.standard.templateFamily (template.key ⟨3⟩) :=
    refersBy_iff.mp (by decide +kernel)
  have nowhere : ¬ LeadsElsewhere template "ref" ⟨3⟩ "Other" :=
    findsNoOther_iff_not_leadsElsewhere.mp (by decide +kernel)
  have accepted := (byValue template .standard ⟨3⟩ (by decide +kernel) refers "Other"
    (by decide +kernel)).mpr nowhere
  have unmarked : ((markApproved template .standard).key ⟨3⟩).property? Property.preApproved = none := by
    decide +kernel
  cases unmarked.symm.trans accepted.marked

end ThreatModel.Rule
