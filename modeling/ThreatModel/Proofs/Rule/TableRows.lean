import ThreatModel.Proofs.Document.Ancestry
import ThreatModel.Proofs.Document.SearchOrder
import ThreatModel.Rule.Coverage

/-!
The rows of a table. A table is the value of the first key with its data tag: one row if it is a mapping,
or the mappings among its items. Rows do not overlap, so a key belongs to one row at most.
-/

namespace ThreatModel.Document

variable {doc : Document} {dataTag : String} {row left right : Item} {key : KeyId}

/-- The mapping is the section with the data tag, or an item of it. -/
structure IsTableRow (doc : Document) (dataTag : String) (row : Item) : Prop where
  isMapping : row.isMapping
  inSection : ∃ carrier, doc.FirstCarrier dataTag carrier ∧
    (row = doc.valueOf carrier ∨
      ∃ id items, doc.valueOf carrier = .list id items ∧ row ∈ items)

theorem mem_tableRows_iff : row ∈ Rule.tableRows doc dataTag ↔ doc.IsTableRow dataTag row := by
  constructor
  · intro member
    rw [Rule.tableRows] at member
    split at member
    · next carrier id items found =>
        obtain ⟨first, value⟩ := findTagged?_root_eq_some_iff.mp found
        obtain ⟨listed, isMapping⟩ := List.mem_filter.mp member
        exact ⟨isMapping, carrier, first, .inr ⟨id, items, value.symm, listed⟩⟩
    · next carrier id entries found =>
        obtain ⟨first, value⟩ := findTagged?_root_eq_some_iff.mp found
        rw [List.mem_singleton.mp member]
        exact ⟨rfl, carrier, first, .inl value⟩
    · cases member
  · rintro ⟨isMapping, carrier, first, rfl | ⟨id, items, value, listed⟩⟩
    · have found := findTagged?_root_eq_some_iff.mpr ⟨first, rfl⟩
      rw [Rule.tableRows, section?, found]
      cases shape : doc.valueOf carrier with
      | map id entries => exact List.mem_singleton_self _
      | null | text | list =>
          rw [shape] at isMapping
          cases isMapping
    · have found := findTagged?_root_eq_some_iff.mpr ⟨first, value.symm⟩
      rw [Rule.tableRows, section?, found]
      exact List.mem_filter.mpr ⟨listed, isMapping⟩

theorem IsTableRow.mem_subtrees (isRow : doc.IsTableRow dataTag row) : row ∈ doc.root.subtrees := by
  obtain ⟨carrier, first, place⟩ := isRow.inSection
  have sectionBelow := first.hasEntry.value_mem_subtrees
  rcases place with rfl | ⟨id, items, value, listed⟩
  · exact sectionBelow
  · refine Item.mem_subtrees_trans ?_ sectionBelow
    rw [value]
    exact child_mem_subtrees listed

/-- A key belongs to one row of a table at most. -/
theorem IsTableRow.eq_of_hasKey (leftRow : doc.IsTableRow dataTag left)
    (rightRow : doc.IsTableRow dataTag right) (inLeft : left.HasKey key) (inRight : right.HasKey key) :
    left = right := by
  have leftBelow := leftRow.mem_subtrees
  obtain ⟨value, mapping, within, listed⟩ := inLeft
  have mappingBelow := Item.mem_subtrees_trans within leftBelow
  have alsoWithin := (owner_mem_subtrees mappingBelow listed rightRow.mem_subtrees).mp inRight
  obtain ⟨carrier, first, leftPlace⟩ := leftRow.inSection
  obtain ⟨other, otherFirst, rightPlace⟩ := rightRow.inSection
  obtain rfl := first.unique otherFirst
  rcases leftPlace with rfl | ⟨id, items, isList, leftListed⟩ <;>
    rcases rightPlace with rfl | ⟨_, _, isList', rightListed⟩
  · rfl
  · have isMapping := leftRow.isMapping
    rw [isList'] at isMapping
    cases isMapping
  · have isMapping := rightRow.isMapping
    rw [isList] at isMapping
    cases isMapping
  · obtain ⟨rfl, rfl⟩ := Item.list.inj (isList.symm.trans isList')
    have listBelow := first.hasEntry.value_mem_subtrees
    rw [isList] at listBelow
    exact eq_of_mem_children listBelow leftListed rightListed within alsoWithin

theorem nodup_tableRows (doc : Document) (dataTag : String) : (Rule.tableRows doc dataTag).Nodup := by
  rw [Rule.tableRows]
  split
  · next carrier id items found =>
      obtain ⟨first, value⟩ := findTagged?_root_eq_some_iff.mp found
      have below := first.hasEntry.value_mem_subtrees
      rw [← value] at below
      exact (List.Nodup.of_map _ (numbered below).nodup_children).filter _
  · exact List.nodup_singleton _
  · exact List.nodup_nil

end ThreatModel.Document
