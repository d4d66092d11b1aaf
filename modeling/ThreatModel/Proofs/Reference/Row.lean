import ThreatModel.Proofs.Reference.Resolution

/-!
References within a row against references within the document. A row belongs to the section whose data
tag its first key finds around it, while the document is searched below the first key that carries the
tag. Both agree on the rows that this key encloses; a row of a later section with the same tag is not
searched.
-/

namespace ThreatModel

namespace Document

variable {doc : Document} {row inner : Item} {family value text : String} {key : Key}
  {custom : Option Comparison} {tag : ReferenceTag} {keys : List KeyId} {id field carrier : KeyId}

theorem mem_enclosing_of_hasKey (holds : doc.root.HasKey carrier)
    (below : (doc.valueOf carrier).HasKey field) : carrier ∈ (doc.place field).enclosing := by
  obtain ⟨region, mapping, within, listed⟩ := holds
  obtain ⟨entries, shape, inEntries⟩ := Item.exists_map_of_mem_entries listed
  obtain ⟨around, path⟩ := Item.exists_leadsTo within
  rw [shape] at path
  have regionPath := path.value inEntries
  rw [valueOf_of_hasEntry ⟨mapping, within, listed⟩] at below
  obtain ⟨value, owner, deeper, belongs⟩ := below
  obtain ⟨ownEntries, ownShape, own⟩ := Item.exists_map_of_mem_entries belongs
  obtain ⟨inside, ownerPath⟩ := Item.exists_leadsTo deeper
  rw [ownShape] at ownerPath
  rw [place_of_leadsTo (regionPath.trans ownerPath) own]
  simp

/-- The keys around a key of a row are keys around the row or keys inside it. -/
theorem encloses_or_inside (stands : row ∈ doc.root.subtrees) (holds : row.HasKey field)
    (encloses : carrier ∈ (doc.place field).enclosing) :
    row ∈ (doc.valueOf carrier).subtrees ∨ row.HasKey carrier := by
  obtain ⟨around, rowPath⟩ := Item.exists_leadsTo stands
  obtain ⟨value, owner, within, belongs⟩ := holds
  obtain ⟨entries, shape, listed⟩ := Item.exists_map_of_mem_entries belongs
  obtain ⟨inside, ownerPath⟩ := Item.exists_leadsTo within
  rw [shape] at ownerPath
  -- The keys that lead to the mapping of the key are those inside the row, then those around it.
  rw [place_of_leadsTo (rowPath.trans ownerPath) listed] at encloses
  rcases List.mem_append.mp encloses with isInside | isAround
  · exact .inr (ownerPath.hasKey isInside)
  · exact .inl (mem_valueOf_of_leadsTo rowPath isAround)

theorem dataTag_carried (tagged : doc.dataTag? id = some text) :
    ∃ owner ∈ doc.ancestry id, (doc.key owner).hasTag text := by
  obtain ⟨owner, isAround, first⟩ := List.exists_of_findSome?_eq_some tagged
  have listed : text ∈ (doc.key owner).dataTags := List.mem_of_mem_head? (by simp [first])
  refine ⟨owner, isAround, ?_⟩
  rw [Key.dataTags, List.mem_filter] at listed
  simpa [Key.hasTag] using listed.1

theorem rowDataTag_carried (stands : row ∈ doc.root.subtrees)
    (tagged : doc.rowDataTag? row = some text) :
    ∃ owner, doc.root.HasKey owner ∧ (doc.key owner).hasTag text := by
  rw [rowDataTag?, Option.bind_eq_some_iff] at tagged
  obtain ⟨⟨first, value⟩, isFirst, tagged⟩ := tagged
  have belongs := List.mem_of_mem_head? (Option.mem_def.mpr isFirst)
  obtain ⟨entries, shape, listed⟩ := Item.exists_map_of_mem_entries belongs
  obtain ⟨around, path⟩ := Item.exists_leadsTo stands
  obtain ⟨owner, isAround, carries⟩ := dataTag_carried tagged
  refine ⟨owner, ?_, carries⟩
  rw [shape] at path
  rw [ancestry, place_of_leadsTo path listed] at isAround
  rcases List.mem_cons.mp isAround with rfl | enclosing
  · exact ⟨value, row, stands, belongs⟩
  · exact path.hasKey enclosing

theorem resolvesIn_iff :
    doc.resolvesIn row custom value tag = true ↔ ∃ field item, row.HasEntry (field, item) ∧
      (doc.key field).hasTag tag.fieldTag ∧
      ∃ text, item.ListsText text ∧ tag.accepts custom value field text := by
  simp only [resolvesIn, List.any_eq_true, Prod.exists, mem_findAllTagged_iff, Item.mem_texts_iff,
    and_assoc]

/-- What a row's reference says: one of the key's tags names the row's section and is accepted in the
row. -/
theorem rowReference?_eq_some
    (resolved : doc.rowReference? row family key value custom false = some text) :
    ∃ tag, text ∈ key.tags ∧ ReferenceTag.parse? text = some tag ∧ tag.family = family ∧
      doc.rowDataTag? row = some tag.dataTag ∧ doc.resolvesIn row custom value tag = true := by
  rw [rowReference?, Option.map_eq_some_iff] at resolved
  obtain ⟨tag, found, rfl⟩ := resolved
  have candidate := List.mem_filter.mp (List.mem_of_find?_eq_some found)
  obtain ⟨carried, read, ofFamily⟩ := ReferenceTag.mem_ofKey_iff.mp candidate.1
  refine ⟨tag, carried, read, ofFamily, ?_, List.find?_some found⟩
  simpa using candidate.2

/-- A tag that resolves in a part of the section it names leads to a match in that part. -/
theorem exists_match_of_resolvesIn {tag : ReferenceTag} (carried : text ∈ key.tags)
    (read : ReferenceTag.parse? text = some tag) (ofFamily : tag.family = family)
    (first : doc.FirstCarrier tag.dataTag carrier)
    (enclosed : inner ∈ (doc.valueOf carrier).subtrees)
    (resolves : doc.resolvesIn inner custom value tag = true) :
    ∃ found ∈ doc.references family key value custom,
      found.tag = text ∧ inner.HasKey found.key := by
  obtain ⟨field, item, inPart, inColumn, accepted, listed, accepts⟩ := resolvesIn_iff.mp resolves
  have below := inPart.mono enclosed
  refine ⟨⟨text, field, accepted⟩, mem_references_iff.mpr ⟨tag, carrier, ?_⟩, rfl, item, inPart⟩
  refine ⟨carried, read, ofFamily, first, ⟨item, below⟩, inColumn, ?_, accepts⟩
  rw [first.valueOf_below below]
  exact listed

theorem Resolves.resolvesIn {tag : ReferenceTag} {found : ReferenceMatch}
    (resolution : doc.Resolves family key value custom tag carrier found) :
    doc.resolvesIn (doc.valueOf carrier) custom value tag = true := by
  obtain ⟨item, below⟩ := resolution.below
  have listed := resolution.listed
  rw [resolution.section_first.valueOf_below below] at listed
  exact resolvesIn_iff.mpr ⟨found.key, item, below, resolution.inColumn, found.text, listed,
    resolution.accepted⟩

theorem hasKey_of_valueOf (stands : row ∈ doc.root.subtrees) (inside : row.HasKey carrier)
    (below : (doc.valueOf carrier).HasKey field) : row.HasKey field := by
  obtain ⟨region, holds⟩ := inside
  rw [valueOf_of_hasEntry (holds.mono stands)] at below
  obtain ⟨item, below⟩ := below
  exact ⟨item, below.mono holds.value_mem_subtrees⟩

/-- A tag that resolves within a row names a section of the document. If the first key of that section's
tag encloses the row, the document's references hold a match of the tag inside the row; if that key
stands inside the row, they do so where the tag resolves below it; else they hold none. -/
theorem rowReference?_agrees_below_first_carrier {node : NodeId}
    (stands : doc.node? node = some row)
    (resolved : doc.rowReference? row family key value custom false = some text) :
    ∃ tag carrier, ReferenceTag.parse? text = some tag ∧ doc.FirstCarrier tag.dataTag carrier ∧
      ((∃ found ∈ doc.references family key value custom,
          found.tag = text ∧ row.HasKey found.key) ↔
        row ∈ (doc.valueOf carrier).subtrees ∨
          row.HasKey carrier ∧ doc.resolvesIn (doc.valueOf carrier) custom value tag = true) := by
  have within : row ∈ doc.root.subtrees := by
    rw [node?, doc.nodes_eq, List.getElem?_toArray] at stands
    exact List.mem_of_getElem? stands
  obtain ⟨tag, carried, read, ofFamily, ofSection, resolves⟩ := rowReference?_eq_some resolved
  obtain ⟨owner, holds, carries⟩ := rowDataTag_carried within ofSection
  obtain ⟨carrier, first⟩ := exists_firstCarrier holds carries
  have isKey : doc.root.HasKey carrier := ⟨_, first.hasEntry⟩
  refine ⟨tag, carrier, read, first, ?_, ?_⟩
  · rintro ⟨found, matched, rfl, inRow⟩
    obtain ⟨other, otherCarrier, resolution⟩ := mem_references_iff.mp matched
    obtain rfl : tag = other := Option.some.inj (read.symm.trans resolution.read)
    obtain rfl := first.unique resolution.section_first
    rcases encloses_or_inside within inRow (mem_enclosing_of_hasKey isKey resolution.below) with
      encloses | inside
    · exact .inl encloses
    · exact .inr ⟨inside, resolution.resolvesIn⟩
  · rintro (encloses | ⟨inside, resolvesBelow⟩)
    · exact exists_match_of_resolvesIn carried read ofFamily first encloses resolves
    · obtain ⟨found, matched, sameTag, below⟩ :=
        exists_match_of_resolvesIn carried read ofFamily first (Item.self_mem_subtrees _)
          resolvesBelow
      exact ⟨found, matched, sameTag, hasKey_of_valueOf within inside below⟩

/-- Two sections with one data tag. Searches look into the first one. -/
def twoSections : Document := .ofNode (.map [
  (.ofName "title", .ofString "Model"),
  (.withTags "assets" ["assets-data"],
    .list [.map [(.withTags "name" ["asset-name"], .ofString "DB")]]),
  (.withTags "archive" ["assets-data"],
    .list [.map [(.withTags "name" ["asset-name"], .ofString "Vault")]])])

def assetReference : Key := .withTags "asset" ["ref/assets-data/asset-name"]

def firstSectionRow : Item := .map ⟨3⟩ [(⟨2⟩, .text ⟨4⟩ (.ofString "DB"))]

def secondSectionRow : Item := .map ⟨6⟩ [(⟨4⟩, .text ⟨7⟩ (.ofString "Vault"))]

theorem rowReference?_agrees_in_first_section :
    twoSections.node? ⟨3⟩ = some firstSectionRow ∧
    twoSections.rowReference? firstSectionRow "ref" assetReference "DB" none false =
      some "ref/assets-data/asset-name" ∧
    ∃ tag carrier, ReferenceTag.parse? "ref/assets-data/asset-name" = some tag ∧
      twoSections.FirstCarrier tag.dataTag carrier ∧
      ((∃ found ∈ twoSections.references "ref" assetReference "DB" none,
          found.tag = "ref/assets-data/asset-name" ∧ firstSectionRow.HasKey found.key) ↔
        firstSectionRow ∈ (twoSections.valueOf carrier).subtrees ∨
          firstSectionRow.HasKey carrier ∧
            twoSections.resolvesIn (twoSections.valueOf carrier) none "DB" tag = true) := by
  have stands : twoSections.node? ⟨3⟩ = some firstSectionRow := rfl
  have resolved : twoSections.rowReference? firstSectionRow "ref" assetReference "DB" none false =
      some "ref/assets-data/asset-name" := by decide +kernel
  exact ⟨stands, resolved, rowReference?_agrees_below_first_carrier stands resolved⟩

/-- A row of the second section resolves what the document does not. -/
theorem rowReference?_without_match :
    ¬ ∀ (doc : Document) (node : NodeId) (row : Item) (family : String) (key : Key)
        (value : String) (custom : Option Comparison) (text : String),
      doc.node? node = some row → row.isMapping →
      doc.rowReference? row family key value custom false = some text →
      ∃ found ∈ doc.references family key value custom,
        found.tag = text ∧ row.HasKey found.key := by
  intro agree
  have stands : twoSections.node? ⟨6⟩ = some secondSectionRow := rfl
  have resolved : twoSections.rowReference? secondSectionRow "ref" assetReference "Vault" none
      false = some "ref/assets-data/asset-name" := by decide +kernel
  have unmatched : twoSections.references "ref" assetReference "Vault" none = [] := by decide +kernel
  obtain ⟨found, matched, _⟩ := agree _ _ _ _ _ _ _ _ stands rfl resolved
  rw [unmatched] at matched
  cases matched

end Document

end ThreatModel
