import ThreatModel.Proofs.Reference.Resolution
import ThreatModel.Rule.All

/-!
Which values are reported as unresolved: the texts that refer to something and are found nowhere, each
as often as it stands in the model and in the model's order.
-/

namespace ThreatModel

theorem flatMap_filter_of_eq_nil {p : α → Bool} {f : α → List β} {items : List α}
    (empty : ∀ item ∈ items, p item = false → f item = []) :
    (items.filter p).flatMap f = items.flatMap f := by
  induction items with
  | nil => rfl
  | cons item rest ih =>
      rw [List.forall_mem_cons] at empty
      rw [List.flatMap_cons, List.filter_cons, ← ih empty.2]
      split
      · rw [List.flatMap_cons]
      · next fails => rw [empty.1 (Bool.eq_false_iff.mpr fails), List.nil_append]

/-- Every text that a key's value holds, with the key: keys in document order, texts in theirs. -/
def Document.occurrences (doc : Document) : List (KeyId × String) :=
  doc.keyIds.flatMap fun key => (doc.textsOf key).map fun text => (key, text)

theorem Document.references_eq_nil_iff {doc : Document} {family value : String} {key : Key}
    {custom : Option Comparison} :
    doc.references family key value custom = [] ↔
      ∀ tag carrier found, ¬ doc.Resolves family key value custom tag carrier found := by
  simp only [List.eq_nil_iff_forall_not_mem, mem_references_iff, not_exists]
  exact ⟨fun none tag carrier found => none found tag carrier,
    fun none found tag carrier => none tag carrier found⟩

namespace Rule

variable {doc template : Document} {family name value : String} {key : KeyId} {scene : Scene}

/-- One of the tags is a reference of the family. -/
def HasReference (family : String) (key : Key) : Prop :=
  ∃ text ∈ key.tags, ∃ tag, ReferenceTag.parse? text = some tag ∧ tag.family = family

theorem refersBy_iff {key : Key} : refersBy family key = true ↔ HasReference family key := by
  rw [refersBy, Bool.not_eq_true', List.isEmpty_eq_false_iff_exists_mem]
  constructor
  · rintro ⟨tag, ofKey⟩
    obtain ⟨carried, read, ofFamily⟩ := ReferenceTag.mem_ofKey_iff.mp ofKey
    exact ⟨tag.text, carried, tag, read, ofFamily⟩
  · rintro ⟨text, carried, tag, read, ofFamily⟩
    obtain rfl := ReferenceTag.text_of_parse? read
    exact ⟨tag, ReferenceTag.mem_ofKey_iff.mpr ⟨carried, read, ofFamily⟩⟩

theorem findsNoOther_iff :
    findsNoOther doc family key value = true ↔ ∀ tag carrier found,
      doc.Resolves family (doc.key key) value none tag carrier found → found.key = key := by
  simp only [findsNoOther, List.all_eq_true, beq_iff_eq, Document.mem_references_iff]
  exact ⟨fun only tag carrier found resolved => only found ⟨tag, carrier, resolved⟩,
    fun only found ⟨tag, carrier, resolved⟩ => only tag carrier found resolved⟩

theorem isMarked_iff {key : Key} :
    isMarked key = true ↔ key.property? Property.preApproved = some (.bool true) := by
  rw [isMarked, beq_iff_eq, Option.bind_eq_some_iff]
  constructor
  · rintro ⟨mark, held, isTrue⟩
    cases mark <;> cases isTrue
    exact held
  · intro held
    exact ⟨_, held, rfl⟩

theorem isApproved_iff :
    isApproved template name value = true ↔ ∃ key ∈ template.keyIds,
      (template.key key).name = name ∧
        (template.key key).property? Property.preApproved = some (.bool true) ∧
        ∃ text ∈ template.textsOf key, normalise text = normalise value := by
  simp only [isApproved, List.any_eq_true, Bool.and_eq_true, beq_iff_eq, isMarked_iff, and_assoc]

/-- A text of a key refers to something that is found nowhere: at no other key of the model, nowhere in
the template, and not among the values that the template approves for keys of the name. -/
structure IsUnresolved (scene : Scene) (key : KeyId) (text : String) : Prop where
  filled : Unicode.isBlankText text = false
  refers : HasReference scene.conventions.documentFamily (scene.model.key key) ∨
    HasReference scene.conventions.templateFamily (scene.model.key key)
  notInModel : ∀ tag carrier found, scene.model.Resolves scene.conventions.documentFamily
    (scene.model.key key) text none tag carrier found → found.key = key
  notInTemplate : ∀ tag carrier found, ¬ scene.template.Resolves scene.conventions.templateFamily
    (scene.model.key key) text none tag carrier found
  notApproved : ∀ other ∈ scene.template.keyIds,
    (scene.template.key other).name = (scene.model.key key).name →
    (scene.template.key other).property? Property.preApproved = some (.bool true) →
    ∀ approved ∈ scene.template.textsOf other, normalise approved ≠ normalise text

theorem isUnresolved_iff :
    IsUnresolved scene key value ↔
      refers scene key = true ∧ Unicode.isBlankText value = false ∧
        resolves scene key value = false := by
  have referring : refers scene key = true ↔
      HasReference scene.conventions.documentFamily (scene.model.key key) ∨
        HasReference scene.conventions.templateFamily (scene.model.key key) := by
    rw [Rule.refers, Bool.or_eq_true, refersBy_iff, refersBy_iff]
  have unapproved : isApproved scene.template (scene.model.key key).name value = false ↔
      ∀ other ∈ scene.template.keyIds,
        (scene.template.key other).name = (scene.model.key key).name →
        (scene.template.key other).property? Property.preApproved = some (.bool true) →
        ∀ approved ∈ scene.template.textsOf other, normalise approved ≠ normalise value := by
    rw [← Bool.not_eq_true, isApproved_iff]
    push Not
    rfl
  rw [referring, resolves, Bool.or_eq_false_iff, Bool.or_eq_false_iff, Bool.not_eq_false',
    Bool.not_eq_false', List.isEmpty_iff, findsNoOther_iff, Document.references_eq_nil_iff, unapproved]
  constructor
  · rintro ⟨filled, refers, notInModel, notInTemplate, notApproved⟩
    exact ⟨refers, filled, ⟨notInModel, notInTemplate⟩, notApproved⟩
  · rintro ⟨refers, filled, ⟨notInModel, notInTemplate⟩, notApproved⟩
    exact ⟨filled, refers, notInModel, notInTemplate, notApproved⟩

instance (scene : Scene) (key : KeyId) (text : String) : Decidable (IsUnresolved scene key text) :=
  decidable_of_iff _ isUnresolved_iff.symm

theorem unresolved_eq_filter (scene : Scene) :
    unresolved scene = scene.model.occurrences.filter fun found =>
      IsUnresolved scene found.1 found.2 := by
  have unresolvedOf : ∀ key,
      ((scene.model.textsOf key).map fun text => (key, text)).filter
          (fun found => IsUnresolved scene found.1 found.2) =
        ((scene.model.textsOf key).filter fun text => IsUnresolved scene key text).map
          fun text => (key, text) := fun key => List.filter_map
  have silent : ∀ key ∈ scene.model.keyIds, refers scene key = false →
      ((scene.model.textsOf key).filter fun text => IsUnresolved scene key text).map
        (fun text => (key, text)) = [] := by
    intro key _ refersNowhere
    rw [List.map_eq_nil_iff, List.filter_eq_nil_iff]
    intro text _ found
    have referring := (isUnresolved_iff.mp (of_decide_eq_true found)).1
    exact Bool.false_ne_true (refersNowhere.symm.trans referring)
  simp only [Document.occurrences, List.filter_flatMap, unresolvedOf]
  rw [← flatMap_filter_of_eq_nil silent, unresolved]
  refine List.flatMap_congr fun key member => congrArg _ ?_
  have referring := (List.mem_filter.mp member).2
  rw [filledTexts, List.filter_filter]
  refine List.filter_congr fun text _ => ?_
  rw [Bool.eq_iff_iff, decide_eq_true_iff, isUnresolved_iff]
  simp [referring, and_comm]

end Rule

end ThreatModel
