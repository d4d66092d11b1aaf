import ThreatModel.Proofs.Document.Ancestry

/-!
Searches by tag beside a scan. The scan goes through the table of keys and takes those whose mapping stands
at or below the node. Both searches meet the keys that it takes, each once and with its value, but in an
order of their own, and the first key of that order is the one that a single search finds.
-/

namespace ThreatModel

namespace Document

variable {doc : Document} {tag : String} {key : KeyId} {node value : Item} {id : NodeId}

/-- The mapping of the key stands at or below the node. -/
def standsBelow (doc : Document) (node : Item) (key : KeyId) : Bool :=
  node.subtrees.any fun mapping => mapping.id == doc.ownerOf key

/-- The keys below a node that carry a tag, by going through the keys of the document. -/
def scanTagged (doc : Document) (node : Item) (tag : String) : List (KeyId × Item) :=
  (doc.keyIds.filter fun key => doc.standsBelow node key && (doc.key key).hasTag tag).map fun key =>
    (key, doc.valueOf key)

theorem nodup_keyIds (doc : Document) : doc.keyIds.Nodup := by
  apply List.Pairwise.map _ _ List.nodup_range
  intro left right different same
  exact different (congrArg KeyId.index same)

/-- The entries below a node are those of the keys whose mapping stands there. -/
theorem hasEntry_iff_standsBelow (stands : node ∈ doc.root.subtrees) :
    node.HasEntry (key, value) ↔
      (key ∈ doc.keyIds ∧ doc.standsBelow node key) ∧ value = doc.valueOf key := by
  simp only [standsBelow, List.any_eq_true, beq_iff_eq]
  constructor
  · intro holds
    obtain ⟨mapping, below, listed⟩ := holds
    have mappingBelow := Item.mem_subtrees_trans below stands
    have isKey : key ∈ doc.keyIds := mem_keyIds_iff.mpr ⟨value, mapping, mappingBelow, listed⟩
    have place := (mem_entriesOf_key_iff isKey).mp
      (mem_entriesOf_iff.mpr ⟨mapping, mappingBelow, rfl, listed⟩)
    exact ⟨⟨isKey, mapping, below, place.1⟩, place.2⟩
  · intro here
    obtain ⟨⟨isKey, mapping, below, same⟩, rfl⟩ := here
    obtain ⟨entries, path, listed⟩ := exists_leadsTo_owner isKey
    have mappingBelow := Item.mem_subtrees_trans below stands
    have isOwner : mapping = .map (doc.ownerOf key) entries :=
      eq_of_index_eq mappingBelow path.mem_subtrees (congrArg NodeId.index same)
    rw [isOwner] at below
    exact ⟨_, below, listed⟩

theorem standsBelow_root (isKey : key ∈ doc.keyIds) : doc.standsBelow doc.root key := by
  obtain ⟨value, holds⟩ := mem_keyIds_iff.mp isKey
  exact ((hasEntry_iff_standsBelow (Item.self_mem_subtrees _)).mp holds).1.2

theorem mem_scanTagged_iff (stands : node ∈ doc.root.subtrees) :
    (key, value) ∈ doc.scanTagged node tag ↔
      node.HasEntry (key, value) ∧ (doc.key key).hasTag tag := by
  rw [hasEntry_iff_standsBelow stands, scanTagged, List.mem_map]
  constructor
  · intro scanned
    obtain ⟨found, taken, same⟩ := scanned
    cases same
    obtain ⟨isKey, test⟩ := List.mem_filter.mp taken
    rw [Bool.and_eq_true] at test
    exact ⟨⟨⟨isKey, test.1⟩, rfl⟩, test.2⟩
  · intro taken
    obtain ⟨⟨⟨isKey, below⟩, rfl⟩, carries⟩ := taken
    exact ⟨key, List.mem_filter.mpr ⟨isKey, by rw [below, carries]; rfl⟩, rfl⟩

theorem keys_scanTagged (node : Item) :
    (doc.scanTagged node tag).map (·.1) =
      doc.keyIds.filter fun key => doc.standsBelow node key && (doc.key key).hasTag tag := by
  rw [scanTagged, List.map_map]
  exact List.map_id _

theorem nodup_keys_scanTagged (node : Item) : ((doc.scanTagged node tag).map (·.1)).Nodup := by
  rw [keys_scanTagged]
  exact doc.nodup_keyIds.filter _

theorem nodup_keys_findAllTagged (stands : node ∈ doc.root.subtrees) :
    ((doc.findAllTagged node tag).map (·.1)).Nodup := by
  rw [findAllTagged, Item.findKeys_eq_filter]
  exact (List.filter_sublist.map _).nodup (nodup_searchOrder stands)

theorem findAllTagged_perm_scanTagged (stands : node ∈ doc.root.subtrees) :
    (doc.findAllTagged node tag).Perm (doc.scanTagged node tag) := by
  have found : (doc.findAllTagged node tag).Nodup := (nodup_keys_findAllTagged stands).of_map
  have scanned : (doc.scanTagged node tag).Nodup := (nodup_keys_scanTagged node).of_map
  apply (List.perm_ext_iff_of_nodup found scanned).mpr
  intro entry
  rw [mem_findAllTagged_iff, mem_scanTagged_iff stands]

theorem findTagged?_eq_head? (node : Item) :
    doc.findTagged? node tag = (doc.findAllTagged node tag).head? := by
  rw [findTagged?, findAllTagged, Item.findKey?_eq_find?, Item.findKeys_eq_filter, List.head?_filter]

/-- At every node of a document, the search for one key finds the first key that the search for all finds,
and that one finds what the scan finds: the keys below the node that carry the tag, each once and with its
value. From the root these are all keys that carry the tag. -/
theorem searches_agree_with_scan (here : doc.node? id = some node) (tag : String) :
    doc.findTagged? node tag = (doc.findAllTagged node tag).head? ∧
    (doc.findAllTagged node tag).Perm (doc.scanTagged node tag) ∧
    ((doc.findAllTagged node tag).map (·.1)).Nodup ∧
    (∀ key value, (key, value) ∈ doc.findAllTagged node tag ↔
      node.HasKey key ∧ (doc.key key).hasTag tag ∧ value = doc.valueOf key) ∧
    ((doc.findAllTagged doc.root tag).map (·.1)).Perm
      (doc.keyIds.filter fun key => (doc.key key).hasTag tag) := by
  have stands := (node?_eq_some_iff.mp here).1
  refine ⟨findTagged?_eq_head? node, findAllTagged_perm_scanTagged stands,
    nodup_keys_findAllTagged stands, fun key value => ?_, ?_⟩
  · rw [mem_findAllTagged_iff]
    constructor
    · intro found
      obtain ⟨holds, carries⟩ := found
      exact ⟨⟨value, holds⟩, carries, ((hasEntry_iff_standsBelow stands).mp holds).2⟩
    · intro wanted
      obtain ⟨⟨own, holds⟩, carries, rfl⟩ := wanted
      rw [((hasEntry_iff_standsBelow stands).mp holds).2] at holds
      exact ⟨holds, carries⟩
  · have everywhere : (doc.scanTagged doc.root tag).map (·.1) =
        doc.keyIds.filter fun key => (doc.key key).hasTag tag := by
      rw [keys_scanTagged]
      exact List.filter_congr fun key isKey => by rw [standsBelow_root isKey, Bool.true_and]
    rw [← everywhere]
    exact (findAllTagged_perm_scanTagged (Item.self_mem_subtrees _)).map _

/-- Two rows, the first with a contact inside its asset before one of its own. -/
def contactRows : Node :=
  let contact := Key.withTags "contact" ["person"]
  .list [.map [(.ofName "asset", .map [(contact, .ofString "Ops")]), (contact, .ofString "Sec")],
    .map [(contact, .ofString "Legal")]]

theorem searches_agree_on_contacts :
    ∃ row, (ofNode contactRows).node? ⟨1⟩ = some row ∧
    (ofNode contactRows).findTagged? row "person" = some (⟨2⟩, .text ⟨4⟩ (.ofString "Sec")) ∧
    ((ofNode contactRows).findAllTagged row "person").map (·.1) = [⟨2⟩, ⟨1⟩] ∧
    ((ofNode contactRows).scanTagged row "person").map (·.1) = [⟨1⟩, ⟨2⟩] ∧
    ((ofNode contactRows).findAllTagged row "person").Perm
      ((ofNode contactRows).scanTagged row "person") ∧
    [⟨2⟩, ⟨1⟩, ⟨3⟩].Perm
      ((ofNode contactRows).keyIds.filter fun key => ((ofNode contactRows).key key).hasTag "person") := by
  have here : (ofNode contactRows).node? ⟨1⟩ =
      some (((ofNode contactRows).node? ⟨1⟩).getD default) := rfl
  obtain ⟨_, scanned, _, _, everywhere⟩ := searches_agree_with_scan here "person"
  exact ⟨_, here, rfl, rfl, rfl, scanned, everywhere⟩

end Document

end ThreatModel
