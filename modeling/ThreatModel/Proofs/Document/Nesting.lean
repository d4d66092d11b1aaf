import Mathlib.Data.List.Nodup
import Mathlib.Data.List.Pairwise
import ThreatModel.Proofs.Document.Numbering

/-!
How the nodes of a document lie within each other. Nodes are numbered in document order, so the numbers
at and below a node run on from its own, and a node lies below another exactly when its number falls
into the run of the other. Two nodes around a third therefore lie one below the other.
-/

namespace ThreatModel

namespace Item

def children : Item → List Item
  | .list _ items => items
  | .map _ entries => entries.map (·.2)
  | _ => []

theorem subtrees_eq_cons (item : Item) :
    item.subtrees = item :: item.children.flatMap subtrees := by
  cases item with
  | null | text => rfl
  | list id items => rw [subtrees_list, children]
  | map id entries => rw [subtrees_map, children, List.flatMap_map]

theorem mem_subtrees_iff_eq_or_below {outer inner : Item} :
    inner ∈ outer.subtrees ↔ inner = outer ∨ ∃ child ∈ outer.children, inner ∈ child.subtrees := by
  rw [subtrees_eq_cons, List.mem_cons, List.mem_flatMap]

/-- Numbering has made the tree. -/
def Numbered (item : Item) : Prop :=
  ∃ (node : Node) (firstNode firstKey : Nat), item = node.number firstNode firstKey

end Item

namespace Node

mutual

theorem indices_number (firstKey : Nat) : ∀ (node : Node) (firstNode : Nat),
    (node.number firstNode firstKey).subtrees.map (·.id.index) =
      List.range' firstNode node.nodeCount
  | .null, _ => rfl
  | .text _, _ => rfl
  | .list items, firstNode => by
      rw [number, Item.subtrees, nodeCount, Nat.add_comm 1, List.range'_succ, List.map_cons,
        indices_numberItems firstKey items (firstNode + 1)]
      rfl
  | .map entries, firstNode => by
      rw [number, Item.subtrees, nodeCount, Nat.add_comm 1, List.range'_succ, List.map_cons,
        indices_numberEntries firstKey entries (firstNode + 1)]
      rfl

theorem indices_numberItems (firstKey : Nat) : ∀ (items : List Node) (firstNode : Nat),
    (Item.subtreesOfItems (numberItems firstNode firstKey items)).map (·.id.index) =
      List.range' firstNode (nodeCountOfItems items)
  | [], _ => rfl
  | item :: rest, firstNode => by
      rw [numberItems, Item.subtreesOfItems, List.map_append, nodeCountOfItems,
        ← List.range'_append_1, indices_number firstKey item firstNode,
        indices_numberItems _ rest (firstNode + item.nodeCount)]

theorem indices_numberEntries (firstKey : Nat) :
    ∀ (entries : List (Key × Node)) (firstNode : Nat),
      (Item.subtreesOfEntries (numberEntries firstNode firstKey entries)).map (·.id.index) =
        List.range' firstNode (nodeCountOfEntries entries)
  | [], _ => rfl
  | (_, value) :: rest, firstNode => by
      rw [numberEntries, Item.subtreesOfEntries, List.map_append, nodeCountOfEntries,
        ← List.range'_append_1, indices_number (firstKey + 1) value firstNode,
        indices_numberEntries _ rest (firstNode + value.nodeCount)]

end

theorem numbered_of_mem_numberItems {item : Item} {items : List Node} {firstNode firstKey : Nat}
    (member : item ∈ numberItems firstNode firstKey items) : item.Numbered := by
  induction items generalizing firstNode firstKey with
  | nil => cases member
  | cons node rest ih =>
      rcases List.mem_cons.mp member with same | inRest
      · exact ⟨node, firstNode, firstKey, same⟩
      · exact ih inRest

theorem numbered_of_mem_numberEntries {entry : KeyId × Item} {entries : List (Key × Node)}
    {firstNode firstKey : Nat} (member : entry ∈ numberEntries firstNode firstKey entries) :
    entry.2.Numbered := by
  induction entries generalizing firstNode firstKey with
  | nil => cases member
  | cons first rest ih =>
      rcases List.mem_cons.mp member with same | inRest
      · exact ⟨first.2, firstNode, firstKey + 1, congrArg Prod.snd same⟩
      · exact ih inRest

end Node

namespace Item

variable {outer inner item : Item} {keys : List KeyId}

theorem Numbered.children (numbered : outer.Numbered) (member : inner ∈ outer.children) :
    inner.Numbered := by
  obtain ⟨node, firstNode, firstKey, rfl⟩ := numbered
  cases node with
  | null | text => cases member
  | list items => exact Node.numbered_of_mem_numberItems member
  | map entries =>
      obtain ⟨entry, listed, rfl⟩ := List.mem_map.mp member
      exact Node.numbered_of_mem_numberEntries listed

theorem Numbered.subtrees (numbered : outer.Numbered) (below : inner ∈ outer.subtrees) :
    inner.Numbered := by
  obtain ⟨keys, path⟩ := exists_leadsTo below
  induction path with
  | here => exact numbered
  | item path member ih => exact (ih path.mem_subtrees).children member
  | value path member ih =>
      exact (ih path.mem_subtrees).children (List.mem_map.mpr ⟨_, member, rfl⟩)

theorem Numbered.indices (numbered : item.Numbered) :
    item.subtrees.map (·.id.index) = List.range' item.id.index item.subtrees.length := by
  obtain ⟨node, firstNode, firstKey, rfl⟩ := numbered
  have indices := node.indices_number firstKey firstNode
  have first : (node.number firstNode firstKey).id.index = firstNode := by cases node <;> rfl
  have count : (node.number firstNode firstKey).subtrees.length = node.nodeCount := by
    simpa using congrArg List.length indices
  rw [first, count, indices]

theorem Numbered.nodup (numbered : item.Numbered) : item.subtrees.Nodup := by
  apply List.Nodup.of_map (·.id.index)
  rw [numbered.indices]
  exact List.nodup_range'

end Item

namespace Document

variable {doc : Document} {outer inner left right parent child : Item} {key : KeyId}

theorem numbered (below : inner ∈ doc.root.subtrees) : inner.Numbered :=
  Item.Numbered.subtrees ⟨doc.source, 0, 0, doc.root_eq⟩ below

theorem numbered_root : doc.root.Numbered := numbered (Item.self_mem_subtrees _)

theorem node?_eq_getElem? (doc : Document) (id : NodeId) :
    doc.node? id = doc.root.subtrees[id.index]? := by
  rw [node?, doc.nodes_eq, List.getElem?_toArray]

theorem index_root (doc : Document) : doc.root.id.index = 0 := by
  rw [doc.root_eq]
  cases doc.source <;> rfl

/-- Each node stands at its own number. -/
theorem node?_eq_some_iff {id : NodeId} :
    doc.node? id = some inner ↔ inner ∈ doc.root.subtrees ∧ inner.id = id := by
  have number : ∀ {index : Nat}, doc.root.subtrees[index]? = some inner →
      inner.id.index = index := by
    intro index found
    have listed : (doc.root.subtrees.map (·.id.index))[index]? = some inner.id.index := by
      rw [List.getElem?_map, found]
      rfl
    rw [doc.numbered_root.indices, index_root, List.getElem?_eq_some_iff] at listed
    obtain ⟨_, same⟩ := listed
    simpa using same.symm
  rw [node?_eq_getElem?]
  constructor
  · intro found
    exact ⟨List.mem_of_getElem? found, congrArg NodeId.mk (number found)⟩
  · rintro ⟨member, rfl⟩
    obtain ⟨index, found⟩ := List.mem_iff_getElem?.mp member
    rw [number found]
    exact found

/-- A number belongs to one node. -/
theorem eq_of_index_eq (leftBelow : left ∈ doc.root.subtrees) (rightBelow : right ∈ doc.root.subtrees)
    (same : left.id.index = right.id.index) : left = right := by
  have distinct : (doc.root.subtrees.map (·.id.index)).Nodup := by
    rw [doc.numbered_root.indices]
    exact List.nodup_range'
  exact List.inj_on_of_nodup_map distinct leftBelow rightBelow same

theorem mem_subtrees_iff_index (outerBelow : outer ∈ doc.root.subtrees)
    (innerBelow : inner ∈ doc.root.subtrees) :
    inner ∈ outer.subtrees ↔ outer.id.index ≤ inner.id.index ∧
      inner.id.index < outer.id.index + outer.subtrees.length := by
  have indices := (numbered outerBelow).indices
  constructor
  · intro below
    have listed : inner.id.index ∈ outer.subtrees.map (·.id.index) :=
      List.mem_map.mpr ⟨inner, below, rfl⟩
    rw [indices, List.mem_range'_1] at listed
    exact listed
  · intro inRun
    have listed : inner.id.index ∈ outer.subtrees.map (·.id.index) := by
      rw [indices, List.mem_range'_1]
      exact inRun
    obtain ⟨found, below, sameIndex⟩ := List.mem_map.mp listed
    have foundBelow := Item.mem_subtrees_trans below outerBelow
    rw [← eq_of_index_eq foundBelow innerBelow sameIndex]
    exact below

theorem index_le_of_mem_subtrees (outerBelow : outer ∈ doc.root.subtrees)
    (below : inner ∈ outer.subtrees) : outer.id.index ≤ inner.id.index :=
  ((mem_subtrees_iff_index outerBelow (Item.mem_subtrees_trans below outerBelow)).mp below).1

/-- Of two nodes around a third, the one of the larger number lies below the other. -/
theorem mem_subtrees_of_index_le (leftBelow : left ∈ doc.root.subtrees)
    (rightBelow : right ∈ doc.root.subtrees) (inLeft : inner ∈ left.subtrees)
    (inRight : inner ∈ right.subtrees) (before : left.id.index ≤ right.id.index) :
    right ∈ left.subtrees := by
  have innerBelow := Item.mem_subtrees_trans inLeft leftBelow
  have leftRun := (mem_subtrees_iff_index leftBelow innerBelow).mp inLeft
  have rightRun := (mem_subtrees_iff_index rightBelow innerBelow).mp inRight
  apply (mem_subtrees_iff_index leftBelow rightBelow).mpr
  omega

theorem mem_subtrees_or_mem_subtrees (leftBelow : left ∈ doc.root.subtrees)
    (rightBelow : right ∈ doc.root.subtrees) (inLeft : inner ∈ left.subtrees)
    (inRight : inner ∈ right.subtrees) :
    right ∈ left.subtrees ∨ left ∈ right.subtrees := by
  rcases Nat.le_total left.id.index right.id.index with before | after
  · exact .inl (mem_subtrees_of_index_le leftBelow rightBelow inLeft inRight before)
  · exact .inr (mem_subtrees_of_index_le rightBelow leftBelow inRight inLeft after)

theorem mem_subtrees_antisymm (leftBelow : left ∈ doc.root.subtrees)
    (inLeft : right ∈ left.subtrees) (inRight : left ∈ right.subtrees) : left = right := by
  have rightBelow := Item.mem_subtrees_trans inLeft leftBelow
  apply eq_of_index_eq leftBelow rightBelow
  apply Nat.le_antisymm
  · exact index_le_of_mem_subtrees leftBelow inLeft
  · exact index_le_of_mem_subtrees rightBelow inRight

/-- What lies below two children of a node lies below one child. -/
theorem eq_of_mem_children (parentBelow : parent ∈ doc.root.subtrees)
    (leftChild : left ∈ parent.children) (rightChild : right ∈ parent.children)
    (inLeft : inner ∈ left.subtrees) (inRight : inner ∈ right.subtrees) : left = right := by
  have distinct := (numbered parentBelow).nodup
  rw [Item.subtrees_eq_cons, List.nodup_cons, List.nodup_flatMap] at distinct
  have symmetric : Std.Symm (Function.onFun List.Disjoint Item.subtrees) :=
    ⟨fun _ _ => List.disjoint_symm⟩
  by_contra different
  have disjoint := distinct.2.2.forall leftChild rightChild different
  exact disjoint inLeft inRight

theorem child_mem_subtrees (isChild : child ∈ parent.children) : child ∈ parent.subtrees :=
  Item.mem_subtrees_iff_eq_or_below.mpr (.inr ⟨child, isChild, Item.self_mem_subtrees child⟩)

/-- A node has one parent: whatever contains a child, other than the child itself, contains the
parent. -/
theorem eq_or_parent_mem_subtrees (parentBelow : parent ∈ doc.root.subtrees)
    (outerBelow : outer ∈ doc.root.subtrees) (isChild : child ∈ parent.children)
    (contains : child ∈ outer.subtrees) : outer = child ∨ parent ∈ outer.subtrees := by
  rcases mem_subtrees_or_mem_subtrees parentBelow outerBelow (child_mem_subtrees isChild) contains
    with inside | around
  · rcases Item.mem_subtrees_iff_eq_or_below.mp inside with rfl | ⟨sibling, isSibling, within⟩
    · exact .inr (Item.self_mem_subtrees _)
    · have inSibling := Item.mem_subtrees_trans contains within
      obtain rfl := eq_of_mem_children parentBelow isChild isSibling (Item.self_mem_subtrees child)
        inSibling
      exact .inl (mem_subtrees_antisymm outerBelow contains within)
  · exact .inr around

theorem not_mem_subtrees_child (parentBelow : parent ∈ doc.root.subtrees)
    (isChild : child ∈ parent.children) : parent ∉ child.subtrees := by
  intro around
  have distinct := (numbered parentBelow).nodup
  rw [Item.subtrees_eq_cons, List.nodup_cons] at distinct
  exact distinct.1 (List.mem_flatMap.mpr ⟨child, isChild, around⟩)

theorem parent_unique (leftBelow : left ∈ doc.root.subtrees) (rightBelow : right ∈ doc.root.subtrees)
    (leftChild : child ∈ left.children) (rightChild : child ∈ right.children) : left = right := by
  rcases eq_or_parent_mem_subtrees leftBelow rightBelow leftChild (child_mem_subtrees rightChild) with
    rfl | leftInRight
  · exact absurd (Item.self_mem_subtrees _) (not_mem_subtrees_child rightBelow rightChild)
  rcases eq_or_parent_mem_subtrees rightBelow leftBelow rightChild (child_mem_subtrees leftChild) with
    rfl | rightInLeft
  · exact absurd (Item.self_mem_subtrees _) (not_mem_subtrees_child leftBelow leftChild)
  exact mem_subtrees_antisymm leftBelow rightInLeft leftInRight

/-- A key belongs to one mapping, so what holds the key contains that mapping. -/
theorem owner_mem_subtrees {mapping : Item} {value : Item} (mappingBelow : mapping ∈ doc.root.subtrees)
    (listed : (key, value) ∈ mapping.entries) (outerBelow : outer ∈ doc.root.subtrees) :
    outer.HasKey key ↔ mapping ∈ outer.subtrees := by
  constructor
  · rintro ⟨found, owner, within, foundListed⟩
    obtain ⟨entries, shape, inEntries⟩ := Item.exists_map_of_mem_entries listed
    obtain ⟨ownerEntries, ownerShape, inOwner⟩ := Item.exists_map_of_mem_entries foundListed
    obtain ⟨keys, path⟩ := Item.exists_leadsTo mappingBelow
    have ownerBelow := Item.mem_subtrees_trans within outerBelow
    obtain ⟨ownerKeys, ownerPath⟩ := Item.exists_leadsTo ownerBelow
    rw [shape] at path
    rw [ownerShape] at ownerPath
    have samePlace := (place_of_leadsTo path inEntries).symm.trans (place_of_leadsTo ownerPath inOwner)
    have sameId : mapping.id = owner.id := congrArg Place.owner samePlace
    rw [eq_of_index_eq mappingBelow ownerBelow (congrArg NodeId.index sameId)]
    exact within
  · intro within
    exact ⟨value, mapping, within, listed⟩

/-- Of two nodes that hold a key, one lies below the other. -/
theorem mem_subtrees_of_hasKey (leftBelow : left ∈ doc.root.subtrees)
    (rightBelow : right ∈ doc.root.subtrees) (inLeft : left.HasKey key) (inRight : right.HasKey key)
    (before : left.id.index ≤ right.id.index) : right ∈ left.subtrees := by
  obtain ⟨value, mapping, within, listed⟩ := inLeft
  have mappingBelow := Item.mem_subtrees_trans within leftBelow
  have inRight := (owner_mem_subtrees mappingBelow listed rightBelow).mp inRight
  exact mem_subtrees_of_index_le leftBelow rightBelow within inRight before

end Document

end ThreatModel
