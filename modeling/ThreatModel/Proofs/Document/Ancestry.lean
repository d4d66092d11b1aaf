import ThreatModel.Proofs.Document.Lossless
import ThreatModel.Proofs.Document.SearchOrder

/-!
The tables of a document refer to each other as the tree does. Every key belongs to one mapping and every
node below the root to one parent, and the keys above a key are those whose values hold its mapping, the
nearest first.
-/

namespace ThreatModel

namespace Item

variable {outer inner value : Item} {keys : List KeyId} {key other : KeyId} {id : NodeId}
  {entries : List (KeyId × Item)}

/-- The nearest key on the way to a node is one of a mapping further up. -/
theorem LeadsTo.exists_entry (path : outer.LeadsTo (key :: keys) inner) :
    ∃ id entries value, outer.LeadsTo keys (.map id entries) ∧ (key, value) ∈ entries ∧
      inner ∈ value.subtrees := by
  generalize split : key :: keys = around at path
  induction path with
  | here => cases split
  | item _ member ih =>
      obtain ⟨id, entries, value, above, listed, within⟩ := ih split
      refine ⟨id, entries, value, above, listed, mem_subtrees_trans ?_ within⟩
      exact (LeadsTo.item .here member).mem_subtrees
  | value above listed =>
      cases split
      exact ⟨_, _, _, above, listed, self_mem_subtrees _⟩

theorem exists_parent (below : inner ∈ outer.subtrees) (other : inner ≠ outer) :
    ∃ parent ∈ outer.subtrees, inner ∈ parent.children := by
  obtain ⟨keys, path⟩ := exists_leadsTo below
  cases path with
  | here => exact absurd rfl other
  | item above member => exact ⟨_, above.mem_subtrees, member⟩
  | value above member => exact ⟨_, above.mem_subtrees, List.mem_map.mpr ⟨_, member, rfl⟩⟩

theorem sublist_flatMap_subtrees (items : List Item) : items.Sublist (items.flatMap subtrees) := by
  induction items with
  | nil => exact .slnil
  | cons item rest ih =>
      rw [List.flatMap_cons, subtrees_eq_cons, List.cons_append]
      exact (ih.trans (List.sublist_append_right _ _)).cons_cons item

theorem Numbered.nodup_children (numbered : outer.Numbered) : (outer.children.map Item.id).Nodup := by
  have distinct : (outer.subtrees.map Item.id).Nodup := by
    apply List.Nodup.of_map NodeId.index
    rw [List.map_map]
    exact numbered.indices ▸ List.nodup_range'
  rw [subtrees_eq_cons, List.map_cons, List.nodup_cons] at distinct
  exact ((sublist_flatMap_subtrees _).map _).nodup distinct.2

theorem exists_number_of_mem_numberEntries {nodes : List (Key × Node)} {firstNode firstKey : Nat}
    (member : (key, value) ∈ Node.numberEntries firstNode firstKey nodes) :
    ∃ node start, value = Node.number start (key.index + 1) node := by
  induction nodes generalizing firstNode firstKey with
  | nil => cases member
  | cons first rest ih =>
      rcases List.mem_cons.mp member with same | inRest
      · cases same
        exact ⟨first.2, firstNode, rfl⟩
      · exact ih inRest

/-- Keys in the value of a key have larger numbers. -/
theorem Numbered.index_lt_of_hasKey (numbered : (Item.map id entries).Numbered)
    (listed : (key, value) ∈ entries) (holds : value.HasKey other) : key.index < other.index := by
  obtain ⟨node, firstNode, firstKey, same⟩ := numbered
  cases node with
  | null | text | list => cases same
  | map nodes =>
      cases same
      obtain ⟨node, start, rfl⟩ := exists_number_of_mem_numberEntries listed
      obtain ⟨within, mapping, below, inMapping⟩ := holds
      obtain ⟨own, shape, inOwn⟩ := exists_map_of_mem_entries inMapping
      obtain ⟨keys, path⟩ := exists_leadsTo below
      rw [shape] at path
      have placed := List.mem_map_of_mem (f := Prod.fst) (path.mem_placements inOwn)
      rw [placements_number, List.mem_map] at placed
      obtain ⟨index, inRange, rfl⟩ := placed
      have bounds := List.mem_range'_1.mp inRange
      exact bounds.1

end Item

namespace Document

variable {doc : Document} {key other parent : KeyId} {rest : List KeyId} {mapping : Item} {id : NodeId}

theorem keyIds_eq_placements (doc : Document) :
    doc.keyIds = (doc.root.placements []).map (·.1) := by
  rw [keys_placements_root, keyIds, doc.keys_size, List.range_eq_range']

theorem mem_keyIds_iff : key ∈ doc.keyIds ↔ doc.root.HasKey key := by
  rw [keyIds_eq_placements, ← (doc.root.searchOrder_perm_placements []).mem_iff, List.mem_map]
  constructor
  · rintro ⟨⟨_, value⟩, met, rfl⟩
    exact ⟨value, Item.mem_searchOrder_iff.mp met⟩
  · rintro ⟨value, holds⟩
    exact ⟨(key, value), Item.mem_searchOrder_iff.mpr holds, rfl⟩

/-- The value of the key holds the node. -/
def Encloses (doc : Document) (key : KeyId) (node : NodeId) : Prop :=
  key ∈ doc.keyIds ∧ ∃ inner ∈ (doc.valueOf key).subtrees, inner.id = node

/-- The mapping of a key, and the keys that lead to it. -/
theorem exists_leadsTo_owner (isKey : key ∈ doc.keyIds) :
    ∃ entries, doc.root.LeadsTo (doc.place key).enclosing (.map (doc.ownerOf key) entries) ∧
      (key, doc.valueOf key) ∈ entries := by
  obtain ⟨value, mapping, within, listed⟩ := mem_keyIds_iff.mp isKey
  obtain ⟨entries, shape, inEntries⟩ := Item.exists_map_of_mem_entries listed
  obtain ⟨keys, path⟩ := Item.exists_leadsTo within
  rw [shape] at path
  have placed := place_of_leadsTo path inEntries
  refine ⟨entries, ?_, ?_⟩
  · rw [ownerOf, placed]
    exact path
  · rw [valueOf, placed]
    exact inEntries

theorem mem_entriesOf_iff {entry : KeyId × Item} :
    entry ∈ doc.entriesOf id ↔
      ∃ mapping ∈ doc.root.subtrees, mapping.id = id ∧ entry ∈ mapping.entries := by
  constructor
  · intro member
    cases found : doc.node? id with
    | none =>
        rw [entriesOf, found] at member
        cases member
    | some mapping =>
        rw [entriesOf, found] at member
        obtain ⟨below, same⟩ := node?_eq_some_iff.mp found
        exact ⟨mapping, below, same, member⟩
  · rintro ⟨mapping, below, same, member⟩
    rw [entriesOf, node?_eq_some_iff.mpr ⟨below, same⟩]
    exact member

/-- A key stands in no mapping but its own, and with no value but its own. -/
theorem mem_entriesOf_key_iff {value : Item} (isKey : key ∈ doc.keyIds) :
    (key, value) ∈ doc.entriesOf id ↔ id = doc.ownerOf key ∧ value = doc.valueOf key := by
  constructor
  · intro member
    obtain ⟨mapping, below, rfl, listed⟩ := mem_entriesOf_iff.mp member
    obtain ⟨entries, shape, inEntries⟩ := Item.exists_map_of_mem_entries listed
    obtain ⟨keys, path⟩ := Item.exists_leadsTo below
    rw [shape] at path
    have placed := place_of_leadsTo path inEntries
    rw [ownerOf, valueOf, placed]
    exact ⟨rfl, rfl⟩
  · rintro ⟨rfl, rfl⟩
    obtain ⟨entries, path, listed⟩ := exists_leadsTo_owner isKey
    exact mem_entriesOf_iff.mpr ⟨_, path.mem_subtrees, rfl, listed⟩

theorem nodup_entriesOf (doc : Document) (id : NodeId) : ((doc.entriesOf id).map (·.1)).Nodup := by
  cases found : doc.node? id with
  | none =>
      rw [entriesOf, found]
      exact List.nodup_nil
  | some mapping =>
      have below := (node?_eq_some_iff.mp found).1
      have distinct := nodup_searchOrder below
      rw [entriesOf, found]
      cases mapping with
      | null | text | list => exact List.nodup_nil
      | map id entries =>
          rw [Item.searchOrder, List.map_append] at distinct
          exact (List.nodup_append.mp distinct).1

theorem valueOf_mem_subtrees (isKey : key ∈ doc.keyIds) :
    doc.valueOf key ∈ doc.root.subtrees := by
  obtain ⟨entries, path, listed⟩ := exists_leadsTo_owner isKey
  exact (path.value listed).mem_subtrees

theorem Encloses.mem_subtrees (around : doc.Encloses other mapping.id)
    (below : mapping ∈ doc.root.subtrees) : mapping ∈ (doc.valueOf other).subtrees := by
  obtain ⟨isOther, inner, within, same⟩ := around
  have innerBelow := Item.mem_subtrees_trans within (valueOf_mem_subtrees isOther)
  rw [← eq_of_index_eq innerBelow below (congrArg NodeId.index same)]
  exact within

theorem encloses_owner_iff (isKey : key ∈ doc.keyIds) :
    doc.Encloses other (doc.ownerOf key) ↔ other ∈ (doc.place key).enclosing := by
  obtain ⟨entries, path, listed⟩ := exists_leadsTo_owner isKey
  constructor
  · intro around
    have within : .map (doc.ownerOf key) entries ∈ (doc.valueOf other).subtrees :=
      around.mem_subtrees path.mem_subtrees
    obtain ⟨otherEntries, otherPath, otherListed⟩ := exists_leadsTo_owner around.1
    obtain ⟨keys, inside⟩ := Item.exists_leadsTo within
    -- A key has one place, so every way to its mapping goes through the same keys.
    rw [place_of_leadsTo ((otherPath.value otherListed).trans inside) listed]
    simp
  · intro around
    exact ⟨mem_keyIds_iff.mpr (path.hasKey around), _, mem_valueOf_of_leadsTo path around, rfl⟩

theorem enclosing_of_enclosing_eq_cons (isKey : key ∈ doc.keyIds)
    (around : (doc.place key).enclosing = parent :: rest) : (doc.place parent).enclosing = rest := by
  obtain ⟨entries, path, _⟩ := exists_leadsTo_owner isKey
  rw [around] at path
  obtain ⟨id, outerEntries, value, above, listed, _⟩ := path.exists_entry
  rw [place_of_leadsTo above listed]

theorem Encloses.index_lt (around : doc.Encloses other (doc.ownerOf key))
    (isKey : key ∈ doc.keyIds) : other.index < key.index := by
  obtain ⟨entries, path, listed⟩ := exists_leadsTo_owner isKey
  obtain ⟨otherEntries, otherPath, otherListed⟩ := exists_leadsTo_owner around.1
  have within : .map (doc.ownerOf key) entries ∈ (doc.valueOf other).subtrees :=
    around.mem_subtrees path.mem_subtrees
  exact (numbered otherPath.mem_subtrees).index_lt_of_hasKey otherListed ⟨_, _, within, listed⟩

theorem parentOf?_eq_none_iff (isKey : key ∈ doc.keyIds) :
    doc.parentOf? key = none ↔ ∀ other, ¬ doc.Encloses other (doc.ownerOf key) := by
  simp only [encloses_owner_iff isKey, ← List.eq_nil_iff_forall_not_mem, parentOf?,
    List.head?_eq_none_iff]

theorem parentOf?_eq_some_iff (isKey : key ∈ doc.keyIds) :
    doc.parentOf? key = some parent ↔ doc.Encloses parent (doc.ownerOf key) ∧
      ∀ other, doc.Encloses other (doc.ownerOf key) →
        other = parent ∨ doc.Encloses other (doc.ownerOf parent) := by
  -- The head of the keys around a key is around it, and the keys further out are around the head.
  have nearest : ∀ {head : KeyId} {rest : List KeyId}, (doc.place key).enclosing = head :: rest →
      doc.Encloses head (doc.ownerOf key) ∧ ∀ other, doc.Encloses other (doc.ownerOf key) →
        other = head ∨ doc.Encloses other (doc.ownerOf head) := by
    intro head rest around
    have encloses : doc.Encloses head (doc.ownerOf key) := by
      rw [encloses_owner_iff isKey, around]
      exact List.mem_cons_self
    refine ⟨encloses, fun other aroundOther => ?_⟩
    rw [encloses_owner_iff isKey, around, List.mem_cons] at aroundOther
    rw [encloses_owner_iff encloses.1, enclosing_of_enclosing_eq_cons isKey around]
    exact aroundOther
  rw [parentOf?]
  cases around : (doc.place key).enclosing with
  | nil =>
      rw [encloses_owner_iff isKey, around]
      simp
  | cons head rest =>
      obtain ⟨headAround, headNearest⟩ := nearest around
      rw [List.head?_cons, Option.some_inj]
      constructor
      · rintro rfl
        exact ⟨headAround, headNearest⟩
      · rintro ⟨parentAround, parentNearest⟩
        rcases headNearest parent parentAround with same | parentOutside
        · exact same.symm
        rcases parentNearest head headAround with same | headOutside
        · exact same
        -- Two keys cannot each be around the other.
        have before := parentOutside.index_lt headAround.1
        have after := headOutside.index_lt parentAround.1
        omega

/-- A key's ancestry is the key and then that of its parent. -/
theorem ancestry_eq (isKey : key ∈ doc.keyIds) :
    doc.ancestry key = key ::
      match doc.parentOf? key with
      | none => []
      | some parent => doc.ancestry parent := by
  rw [ancestry, parentOf?]
  cases around : (doc.place key).enclosing with
  | nil => rfl
  | cons parent rest =>
      rw [List.head?_cons]
      simp only [ancestry, enclosing_of_enclosing_eq_cons isKey around]

theorem mem_ancestry_iff (isKey : key ∈ doc.keyIds) :
    other ∈ doc.ancestry key ↔ other = key ∨ doc.Encloses other (doc.ownerOf key) := by
  rw [ancestry, List.mem_cons, encloses_owner_iff isKey]

/-- In an ancestry, each key is around all that come before it. -/
theorem pairwise_ancestry (isKey : key ∈ doc.keyIds) :
    (doc.ancestry key).Pairwise fun inner outer =>
      outer.index < inner.index ∧ doc.Encloses outer (doc.ownerOf inner) := by
  generalize chain : (doc.place key).enclosing = around
  induction around generalizing key with
  | nil =>
      rw [ancestry, chain]
      exact List.pairwise_singleton _ _
  | cons parent rest ih =>
      have encloses : ∀ outer ∈ parent :: rest, doc.Encloses outer (doc.ownerOf key) := by
        intro outer member
        rw [encloses_owner_iff isKey, chain]
        exact member
      have isParent := (encloses parent List.mem_cons_self).1
      have further := enclosing_of_enclosing_eq_cons isKey chain
      have above := ih isParent further
      rw [ancestry, further] at above
      rw [ancestry, chain]
      refine List.pairwise_cons.mpr ⟨fun outer member => ?_, above⟩
      exact ⟨(encloses outer member).index_lt isKey, encloses outer member⟩

theorem mem_nodes_iff {node : Item} : node ∈ doc.nodes ↔ node ∈ doc.root.subtrees := by
  rw [doc.nodes_eq, List.mem_toArray]

theorem ids_subtrees_root (doc : Document) :
    doc.root.subtrees.map Item.id = (List.range doc.nodes.size).map NodeId.mk := by
  have indices := doc.numbered_root.indices
  rw [index_root] at indices
  rw [List.range_eq_range', doc.nodes_eq, List.size_toArray, ← indices, List.map_map]
  rfl

theorem existsUnique_parent (inTable : id.index < doc.nodes.size) (notRoot : id ≠ doc.root.id) :
    ∃! parent : NodeId, ∃ node, doc.node? parent = some node ∧ id ∈ node.children.map Item.id := by
  obtain ⟨child, below, rfl⟩ : ∃ child ∈ doc.root.subtrees, child.id = id := by
    have listed : id ∈ (List.range doc.nodes.size).map NodeId.mk :=
      List.mem_map.mpr ⟨id.index, List.mem_range.mpr inTable, rfl⟩
    rw [← ids_subtrees_root] at listed
    exact List.mem_map.mp listed
  have notSelf : child ≠ doc.root := fun same => notRoot (congrArg Item.id same)
  obtain ⟨parent, parentBelow, isChild⟩ := Item.exists_parent below notSelf
  refine ⟨parent.id, ⟨parent, ?_, List.mem_map_of_mem isChild⟩, ?_⟩
  · exact node?_eq_some_iff.mpr ⟨parentBelow, rfl⟩
  · rintro other ⟨node, found, listed⟩
    obtain ⟨nodeBelow, rfl⟩ := node?_eq_some_iff.mp found
    obtain ⟨again, isAgain, same⟩ := List.mem_map.mp listed
    have againBelow := Item.mem_subtrees_trans (child_mem_subtrees isAgain) nodeBelow
    rw [eq_of_index_eq againBelow below (congrArg NodeId.index same)] at isAgain
    rw [parent_unique parentBelow nodeBelow isChild isAgain]

theorem root_not_child {node : Item} (below : node ∈ doc.root.subtrees) :
    doc.root.id ∉ node.children.map Item.id := by
  intro listed
  obtain ⟨child, isChild, same⟩ := List.mem_map.mp listed
  have childBelow := Item.mem_subtrees_trans (child_mem_subtrees isChild) below
  have isRoot : child = doc.root :=
    eq_of_index_eq childBelow (Item.self_mem_subtrees _) (congrArg NodeId.index same)
  rw [isRoot] at isChild
  exact not_mem_subtrees_child below isChild below

/-- The tables number the nodes and keys of a tree in document order and refer to each other as the tree
does. -/
structure WellFormed (doc : Document) : Prop where
  rootFirst : doc.root.id = ⟨0⟩
  nodesInOrder : doc.nodes.toList.map Item.id = (List.range doc.nodes.size).map NodeId.mk
  keysInOrder : (doc.root.placements []).map (·.1) = doc.keyIds
  /-- A key stands in the mapping it belongs to, with its value, and nowhere else. -/
  entry : ∀ key ∈ doc.keyIds, ∀ id value,
    (key, value) ∈ doc.entriesOf id ↔ id = doc.ownerOf key ∧ value = doc.valueOf key
  entryOnce : ∀ id, ((doc.entriesOf id).map (·.1)).Nodup
  childrenInTable : ∀ node ∈ doc.nodes, ∀ child ∈ node.children, doc.node? child.id = some child
  childrenOnce : ∀ node ∈ doc.nodes, (node.children.map Item.id).Nodup
  oneParent : ∀ id : NodeId, id.index < doc.nodes.size → id ≠ doc.root.id →
    ∃! parent : NodeId, ∃ node, doc.node? parent = some node ∧ id ∈ node.children.map Item.id
  rootOnTop : ∀ node ∈ doc.nodes, doc.root.id ∉ node.children.map Item.id
  noParentKey : ∀ key ∈ doc.keyIds,
    doc.parentOf? key = none ↔ ∀ other, ¬ doc.Encloses other (doc.ownerOf key)
  /-- The parent is the nearest key around: all others are around it, too. -/
  parentKey : ∀ key ∈ doc.keyIds, ∀ parent,
    doc.parentOf? key = some parent ↔ doc.Encloses parent (doc.ownerOf key) ∧
      ∀ other, doc.Encloses other (doc.ownerOf key) →
        other = parent ∨ doc.Encloses other (doc.ownerOf parent)
  parentBefore : ∀ key ∈ doc.keyIds, ∀ parent ∈ doc.parentOf? key, parent.index < key.index
  ancestryStep : ∀ key ∈ doc.keyIds, doc.ancestry key = key ::
    match doc.parentOf? key with
    | none => []
    | some parent => doc.ancestry parent
  ancestryMembers : ∀ key ∈ doc.keyIds, ∀ other,
    other ∈ doc.ancestry key ↔ other = key ∨ doc.Encloses other (doc.ownerOf key)
  ancestryOutwards : ∀ key ∈ doc.keyIds, (doc.ancestry key).Pairwise fun inner outer =>
    outer.index < inner.index ∧ doc.Encloses outer (doc.ownerOf inner)

theorem wellFormed (doc : Document) : doc.WellFormed where
  rootFirst := congrArg NodeId.mk doc.index_root
  nodesInOrder := by
    rw [← ids_subtrees_root, doc.nodes_eq]
  keysInOrder := doc.keyIds_eq_placements.symm
  entry _ isKey _ _ := mem_entriesOf_key_iff isKey
  entryOnce := doc.nodup_entriesOf
  childrenInTable node member child isChild := by
    have below := Item.mem_subtrees_trans (child_mem_subtrees isChild) (mem_nodes_iff.mp member)
    exact node?_eq_some_iff.mpr ⟨below, rfl⟩
  childrenOnce _ member := (numbered (mem_nodes_iff.mp member)).nodup_children
  oneParent _ inTable notRoot := existsUnique_parent inTable notRoot
  rootOnTop _ member := root_not_child (mem_nodes_iff.mp member)
  noParentKey _ isKey := parentOf?_eq_none_iff isKey
  parentKey _ isKey _ := parentOf?_eq_some_iff isKey
  parentBefore key isKey parent isParent :=
    ((parentOf?_eq_some_iff isKey).mp isParent).1.index_lt isKey
  ancestryStep _ isKey := ancestry_eq isKey
  ancestryMembers _ isKey _ := mem_ancestry_iff isKey
  ancestryOutwards _ isKey := pairwise_ancestry isKey

/-- The tables that taking in a tree builds slot by slot are those of its numbered document, which has
the tree's nodes and keys in their order and is well-formed. -/
theorem wellFormed_of_interned (tree : Node) :
    Arena.empty.intern none tree = ((ofNode tree).root.id, (ofNode tree).arena) ∧
    (ofNode tree).nodes.toList.map (ofNode tree).contentOf = tree.subtrees ∧
    (ofNode tree).keys.toList = tree.keys ∧
    (ofNode tree).WellFormed := by
  refine ⟨Arena.intern_empty tree, ?_, rfl, (ofNode tree).wellFormed⟩
  rw [(ofNode tree).nodes_eq, ← subtrees_contentOf, contentOf_root]

/-- A threat with a control that has an identifier. -/
def threatWithControl : Node :=
  .map [(.ofName "threats", .list [.map [(.ofName "name", .ofString "Theft"),
    (.ofName "control", .map [(.ofName "id", .ofString "C1")])]])]

theorem wellFormed_of_interned_threat :
    Arena.empty.intern none threatWithControl =
      (⟨0⟩, (ofNode threatWithControl).arena) ∧
    ⟨3⟩ ∈ (ofNode threatWithControl).keyIds ∧
    (ofNode threatWithControl).ownerOf ⟨3⟩ = ⟨4⟩ ∧
    (ofNode threatWithControl).ancestry ⟨3⟩ = [⟨3⟩, ⟨2⟩, ⟨0⟩] ∧
    (ofNode threatWithControl).Encloses ⟨2⟩ ⟨4⟩ ∧
    ∀ other, other ∈ [⟨3⟩, ⟨2⟩, ⟨0⟩] ↔ other = ⟨3⟩ ∨ (ofNode threatWithControl).Encloses other ⟨4⟩ := by
  obtain ⟨interned, _, _, formed⟩ := wellFormed_of_interned threatWithControl
  have isKey : ⟨3⟩ ∈ (ofNode threatWithControl).keyIds := by decide +kernel
  have members := formed.ancestryMembers ⟨3⟩ isKey
  have parent := (formed.parentKey ⟨3⟩ isKey ⟨2⟩).mp rfl
  exact ⟨interned, isKey, rfl, rfl, parent.1, members⟩

end Document

end ThreatModel
