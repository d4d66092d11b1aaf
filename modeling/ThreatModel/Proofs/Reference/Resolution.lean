import ThreatModel.Proofs.Document.SearchOrder
import ThreatModel.Reference.Resolve

/-!
What references resolve to. A match belongs to the result exactly when one of the key's tags leads to
it, and it belongs there once.
-/

namespace ThreatModel

theorem nodup_eraseDups [BEq α] [LawfulBEq α] (items : List α) : items.eraseDups.Nodup := by
  match items with
  | [] => exact List.nodup_nil
  | item :: rest =>
      rw [List.eraseDups_cons, List.nodup_cons]
      constructor
      · rw [List.mem_eraseDups]
        simp
      · exact nodup_eraseDups (rest.filter fun other => !other == item)
termination_by items.length
decreasing_by exact Nat.lt_succ_of_le (List.length_filter_le _ _)

namespace ReferenceTag

theorem text_of_parse? {text : String} {tag : ReferenceTag} (read : parse? text = some tag) :
    tag.text = text := by
  have built : ∀ {family dataTag fieldTag comparison : String},
      parse?.build text family dataTag fieldTag comparison = some tag → tag.text = text := by
    intro family dataTag fieldTag comparison built
    unfold parse?.build at built
    split at built
    · contradiction
    · cases built
      rfl
  unfold parse? at read
  split at read
  · exact built read
  · exact built read
  · contradiction

theorem mem_ofKey_iff {key : Key} {family : String} {tag : ReferenceTag} :
    tag ∈ ofKey key family ↔
      tag.text ∈ key.tags ∧ parse? tag.text = some tag ∧ tag.family = family := by
  rw [ofKey, List.mem_filter, List.mem_filterMap, beq_iff_eq]
  constructor
  · rintro ⟨⟨text, carried, read⟩, ofFamily⟩
    obtain rfl := text_of_parse? read
    exact ⟨carried, read, ofFamily⟩
  · rintro ⟨carried, read, ofFamily⟩
    exact ⟨⟨tag.text, carried, read⟩, ofFamily⟩

end ReferenceTag

namespace Document

variable {doc : Document} {family value : String} {key : Key} {custom : Option Comparison}
  {found : ReferenceMatch} {tag : ReferenceTag} {carrier : KeyId}

/-- A tag of `key` leads to a match for `value`: `carrier` is the first key of the document with the
tag's data tag, below its value stands the match's key with the tag's field tag, and the match's text is
accepted and stands in that key's value, under lists alone. -/
structure Resolves (doc : Document) (family : String) (key : Key) (value : String)
    (custom : Option Comparison) (tag : ReferenceTag) (carrier : KeyId) (found : ReferenceMatch) :
    Prop where
  carried : found.tag ∈ key.tags
  read : ReferenceTag.parse? found.tag = some tag
  ofFamily : tag.family = family
  section_first : doc.FirstCarrier tag.dataTag carrier
  below : (doc.valueOf carrier).HasKey found.key
  inColumn : (doc.key found.key).hasTag tag.fieldTag
  listed : (doc.valueOf found.key).ListsText found.text
  accepted : tag.accepts custom value found.key found.text

/-- Below the value of a key of the document stand entries of the document. -/
theorem FirstCarrier.valueOf_below (first : doc.FirstCarrier tag.dataTag carrier) {field : KeyId}
    {item : Item} (holds : (doc.valueOf carrier).HasEntry (field, item)) :
    doc.valueOf field = item :=
  valueOf_of_hasEntry (holds.mono first.hasEntry.value_mem_subtrees)

theorem mem_matchesOf_iff :
    found ∈ doc.matchesOf custom value tag ↔
      found.tag = tag.text ∧ ∃ carrier, doc.FirstCarrier tag.dataTag carrier ∧
        (doc.valueOf carrier).HasKey found.key ∧ (doc.key found.key).hasTag tag.fieldTag ∧
        (doc.valueOf found.key).ListsText found.text ∧
        tag.accepts custom value found.key found.text := by
  cases sectionFound : doc.section? tag.dataTag with
  | none =>
      simp only [matchesOf, sectionFound, List.not_mem_nil, false_iff]
      rintro ⟨_, carrier, first, _⟩
      have present := findTagged?_root_eq_some_iff.mpr ⟨first, rfl⟩
      rw [section?, present] at sectionFound
      contradiction
  | some entry =>
      obtain ⟨carrier, region⟩ := entry
      obtain ⟨first, rfl⟩ := findTagged?_root_eq_some_iff.mp sectionFound
      simp only [matchesOf, sectionFound, List.mem_flatMap, List.mem_map, List.mem_filter,
        Item.mem_texts_iff]
      constructor
      · rintro ⟨⟨field, item⟩, inColumn, text, ⟨listed, accepted⟩, rfl⟩
        obtain ⟨holds, carries⟩ := mem_findAllTagged_iff.mp inColumn
        refine ⟨rfl, carrier, first, ⟨item, holds⟩, carries, ?_, accepted⟩
        rw [first.valueOf_below holds]
        exact listed
      · rintro ⟨sameTag, other, otherFirst, ⟨item, holds⟩, carries, listed, accepted⟩
        have sameEntry : some (other, doc.valueOf other) = some (carrier, doc.valueOf carrier) := by
          rw [← findTagged?_root_eq_some_iff.mpr ⟨otherFirst, rfl⟩]
          exact sectionFound
        cases sameEntry
        rw [first.valueOf_below holds] at listed
        refine ⟨(found.key, item), mem_findAllTagged_iff.mpr ⟨holds, carries⟩, found.text,
          ⟨listed, accepted⟩, ?_⟩
        rw [← sameTag]

theorem mem_references_iff :
    found ∈ doc.references family key value custom ↔
      ∃ tag carrier, doc.Resolves family key value custom tag carrier found := by
  rw [references, List.mem_eraseDups, List.mem_flatMap]
  constructor
  · rintro ⟨tag, ofKey, matched⟩
    obtain ⟨carried, read, ofFamily⟩ := ReferenceTag.mem_ofKey_iff.mp ofKey
    obtain ⟨sameTag, carrier, first, below, inColumn, listed, accepted⟩ :=
      mem_matchesOf_iff.mp matched
    rw [← sameTag] at carried read
    exact ⟨tag, carrier, carried, read, ofFamily, first, below, inColumn, listed, accepted⟩
  · rintro ⟨tag, carrier, resolved⟩
    have sameTag := ReferenceTag.text_of_parse? resolved.read
    refine ⟨tag, ReferenceTag.mem_ofKey_iff.mpr ⟨?_, ?_, resolved.ofFamily⟩,
      mem_matchesOf_iff.mpr ⟨sameTag.symm, carrier, resolved.section_first, resolved.below,
        resolved.inColumn, resolved.listed, resolved.accepted⟩⟩
    · exact sameTag ▸ resolved.carried
    · exact sameTag ▸ resolved.read

theorem nodup_references : (doc.references family key value custom).Nodup :=
  nodup_eraseDups _

/-- The result of resolving holds every match that a tag leads to, no other one, and none twice. -/
theorem references_exact (doc : Document) (family : String) (key : Key) (value : String)
    (custom : Option Comparison) :
    (∀ found, found ∈ doc.references family key value custom ↔
      ∃ tag carrier, doc.Resolves family key value custom tag carrier found) ∧
    (doc.references family key value custom).Nodup :=
  ⟨fun _ => mem_references_iff, nodup_references⟩

end Document

end ThreatModel
