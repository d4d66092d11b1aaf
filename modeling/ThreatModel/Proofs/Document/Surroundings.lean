import ThreatModel.Proofs.Document.Lossless
import ThreatModel.Proofs.Document.Renumbering

/-!
The place of an element of a list in a tree. `Surroundings` are the tree without the element; what is
numbered before it, and which keys lead to it, depends on them alone. A document is the numbering of its
content (`number_contentOf_root`), so the same holds of documents.
-/

namespace ThreatModel

/-- What stands around an element of a list, outermost first. -/
inductive Surroundings
  | element (before after : List Node)
  | item (before : List Node) (inner : Surroundings) (after : List Node)
  | value (before : Mapping) (key : Key) (inner : Surroundings) (after : Mapping)

namespace Surroundings

/-- The tree with the element in its place. -/
def fill (element : Node) : Surroundings → Node
  | .element before after => .list (before ++ element :: after)
  | .item before inner after => .list (before ++ inner.fill element :: after)
  | .value before key inner after => .map (before ++ (key, inner.fill element) :: after)

/-- How many nodes are numbered before the element. -/
def nodesBefore : Surroundings → Nat
  | .element before _ => 1 + Node.nodeCountOfItems before
  | .item before inner _ => 1 + Node.nodeCountOfItems before + inner.nodesBefore
  | .value before _ inner _ => 1 + Node.nodeCountOfEntries before + inner.nodesBefore

/-- The keys that are numbered before those of the element. -/
def keysBefore : Surroundings → List Key
  | .element before _ => Node.keysOfItems before
  | .item before inner _ => Node.keysOfItems before ++ inner.keysBefore
  | .value before key inner _ => Node.keysOfEntries before ++ key :: inner.keysBefore

/-- The keys that are numbered after those of the element. -/
def keysAfter : Surroundings → List Key
  | .element _ after => Node.keysOfItems after
  | .item _ inner after => inner.keysAfter ++ Node.keysOfItems after
  | .value _ _ inner after => inner.keysAfter ++ Node.keysOfEntries after

/-- The keys that lead to the element, nearest first, where the keys are counted from `firstKey` on. -/
def enclosing (firstKey : Nat) : Surroundings → List KeyId
  | .element _ _ => []
  | .item before inner _ => inner.enclosing (firstKey + (Node.keysOfItems before).length)
  | .value before _ inner _ =>
      inner.enclosing (firstKey + (Node.keysOfEntries before).length + 1) ++
        [⟨firstKey + (Node.keysOfEntries before).length⟩]

/-- The first data tag of the nearest key around the element that has one. -/
def dataTag? : Surroundings → Option String
  | .element _ _ => none
  | .item _ inner _ => inner.dataTag?
  | .value _ key inner _ => inner.dataTag?.or key.dataTags.head?

theorem keys_fill (place : Surroundings) (element : Node) :
    (place.fill element).keys = place.keysBefore ++ (element.keys ++ place.keysAfter) := by
  induction place with
  | element before after =>
      rw [fill, Node.keys, Node.keysOfItems_append, Node.keysOfItems, keysBefore, keysAfter]
  | item before inner after ih =>
      rw [fill, Node.keys, Node.keysOfItems_append, Node.keysOfItems, ih, keysBefore, keysAfter]
      simp only [List.append_assoc]
  | value before key inner after ih =>
      rw [fill, Node.keys, Node.keysOfEntries_append, Node.keysOfEntries, ih, keysBefore, keysAfter]
      simp only [List.append_assoc, List.cons_append]

theorem leadsTo_number_fill (place : Surroundings) (element : Node) (firstNode firstKey : Nat) :
    ((place.fill element).number firstNode firstKey).LeadsTo (place.enclosing firstKey)
      (element.number (firstNode + place.nodesBefore) (firstKey + place.keysBefore.length)) := by
  induction place generalizing firstNode firstKey with
  | element before after =>
      refine .item .here ?_
      rw [Node.numberItems_append, Node.numberItems, nodesBefore, ← Nat.add_assoc, keysBefore]
      exact List.mem_append_right _ List.mem_cons_self
  | item before inner after ih =>
      have below := ih (firstNode + 1 + Node.nodeCountOfItems before)
        (firstKey + (Node.keysOfItems before).length)
      rw [nodesBefore, keysBefore, List.length_append, ← Nat.add_assoc, ← Nat.add_assoc,
        ← Nat.add_assoc, enclosing, ← List.append_nil (inner.enclosing _)]
      refine .trans (.item .here ?_) below
      rw [Node.numberItems_append, Node.numberItems]
      exact List.mem_append_right _ List.mem_cons_self
  | value before key inner after ih =>
      have below := ih (firstNode + 1 + Node.nodeCountOfEntries before)
        (firstKey + (Node.keysOfEntries before).length + 1)
      have keyCount : firstKey + (Node.keysOfEntries before).length + 1 + inner.keysBefore.length =
          firstKey + ((Node.keysOfEntries before).length + (inner.keysBefore.length + 1)) := by
        omega
      rw [keyCount] at below
      rw [nodesBefore, keysBefore, List.length_append, List.length_cons, ← Nat.add_assoc,
        ← Nat.add_assoc, enclosing]
      refine .trans (.value .here ?_) below
      rw [Node.numberEntries_append, Node.numberEntries]
      exact List.mem_append_right _ List.mem_cons_self

/-- The data tag that a look-up along the keys around the element finds. -/
theorem findSome?_enclosing (place : Surroundings) {keyAt : KeyId → Key} {firstKey : Nat}
    (listed : ∀ offset key, place.keysBefore[offset]? = some key →
      keyAt ⟨firstKey + offset⟩ = key) :
    ((place.enclosing firstKey).findSome? fun id => (keyAt id).dataTags.head?) = place.dataTag? := by
  induction place generalizing firstKey with
  | element before after => rfl
  | item before inner after ih =>
      refine ih fun offset key found => ?_
      rw [Nat.add_assoc]
      refine listed _ key ?_
      rw [keysBefore, List.getElem?_append_right (Nat.le_add_right _ _), Nat.add_sub_cancel_left]
      exact found
  | value before key inner after ih =>
      have own : keyAt ⟨firstKey + (Node.keysOfEntries before).length⟩ = key := by
        refine listed _ key ?_
        rw [keysBefore, List.getElem?_append_right (Nat.le_refl _), Nat.sub_self]
        rfl
      have inside := @ih (firstKey + (Node.keysOfEntries before).length + 1) fun offset key found => by
        rw [Nat.add_assoc, Nat.add_assoc]
        refine listed _ key ?_
        rw [keysBefore, List.getElem?_append_right (Nat.le_add_right _ _), Nat.add_sub_cancel_left,
          Nat.add_comm 1]
        exact found
      rw [enclosing, List.findSome?_append, inside, List.findSome?_singleton, own, dataTag?]

end Surroundings

namespace Node

theorem length_subtrees (node : Node) : node.subtrees.length = node.nodeCount := by
  rw [← Document.contentOf_root node, Document.subtrees_contentOf, List.length_map,
    Document.contentOf_root]
  exact node.length_subtrees_number 0 0

theorem exists_of_mem_numberItems {items : List Node} {firstNode firstKey : Nat} {item : Item}
    (member : item ∈ numberItems firstNode firstKey items) :
    ∃ before node after, items = before ++ node :: after ∧
      item = node.number (firstNode + nodeCountOfItems before)
        (firstKey + (keysOfItems before).length) := by
  induction items generalizing firstNode firstKey with
  | nil => cases member
  | cons node rest ih =>
      rcases List.mem_cons.mp member with rfl | inRest
      · exact ⟨[], node, rest, rfl, rfl⟩
      · obtain ⟨before, found, after, rfl, rfl⟩ := ih inRest
        refine ⟨node :: before, found, after, rfl, ?_⟩
        rw [nodeCountOfItems, keysOfItems, List.length_append, Nat.add_assoc, Nat.add_assoc]

theorem exists_of_mem_numberEntries {entries : Mapping} {firstNode firstKey : Nat}
    {entry : KeyId × Item} (member : entry ∈ numberEntries firstNode firstKey entries) :
    ∃ before key value after, entries = before ++ (key, value) :: after ∧
      entry.2 = value.number (firstNode + nodeCountOfEntries before)
        (firstKey + (keysOfEntries before).length + 1) := by
  induction entries generalizing firstNode firstKey with
  | nil => cases member
  | cons first rest ih =>
      rcases List.mem_cons.mp member with rfl | inRest
      · exact ⟨[], first.1, first.2, rest, rfl, rfl⟩
      · obtain ⟨before, key, value, after, rfl, same⟩ := ih inRest
        refine ⟨first :: before, key, value, after, rfl, ?_⟩
        have keysAhead : firstKey + 1 + first.2.keys.length + (keysOfEntries before).length + 1 =
            firstKey + ((keysOfEntries before).length + first.2.keys.length + 1) + 1 := by
          omega
        rw [same, nodeCountOfEntries, keysOfEntries, List.length_cons, List.length_append,
          Nat.add_assoc firstNode, keysAhead, Nat.add_comm first.2.keys.length]

/-- Every element of a list in a tree has its place. -/
theorem exists_surroundings {tree : Node} {firstNode firstKey : Nat} {id : NodeId}
    {items : List Item} {element : Item}
    (within : Item.list id items ∈ (tree.number firstNode firstKey).subtrees)
    (member : element ∈ items) :
    ∃ (place : Surroundings) (node : Node), tree = place.fill node ∧
      element = node.number (firstNode + place.nodesBefore)
        (firstKey + place.keysBefore.length) := by
  induction tree using Node.induction generalizing firstNode firstKey with
  | null | text => simp [number, Item.subtrees] at within
  | list nodes ih =>
      rw [number, Item.subtrees_list] at within
      rcases List.mem_cons.mp within with same | deeper
      · cases same
        obtain ⟨before, node, after, rfl, rfl⟩ := exists_of_mem_numberItems member
        exact ⟨.element before after, node, rfl, by
          rw [Surroundings.nodesBefore, Surroundings.keysBefore, ← Nat.add_assoc]⟩
      · obtain ⟨item, listed, below⟩ := List.mem_flatMap.mp deeper
        obtain ⟨before, node, after, rfl, rfl⟩ := exists_of_mem_numberItems listed
        obtain ⟨place, found, rfl, same⟩ :=
          ih node (List.mem_append_right _ List.mem_cons_self) below
        refine ⟨.item before place after, found, rfl, ?_⟩
        rw [same, Surroundings.nodesBefore, Surroundings.keysBefore, List.length_append]
        simp only [Nat.add_assoc]
  | map entries ih =>
      rw [number, Item.subtrees_map] at within
      rcases List.mem_cons.mp within with same | deeper
      · cases same
      · obtain ⟨entry, listed, below⟩ := List.mem_flatMap.mp deeper
        obtain ⟨before, key, value, after, rfl, shape⟩ := exists_of_mem_numberEntries listed
        rw [shape] at below
        obtain ⟨place, found, rfl, same⟩ :=
          ih (key, value) (List.mem_append_right _ List.mem_cons_self) below
        refine ⟨.value before key place after, found, rfl, ?_⟩
        rw [same, Surroundings.nodesBefore, Surroundings.keysBefore, List.length_append,
          List.length_cons]
        simp only [Nat.add_assoc, Nat.add_comm 1]

end Node

namespace Document

variable {doc : Document}

theorem keys_contentOf (enclosing : List KeyId) (item : Item) :
    (doc.contentOf item).keys = (item.placements enclosing).map fun placed => doc.key placed.1 := by
  induction item using Item.induction generalizing enclosing with
  | null | text => rfl
  | list id items ih =>
      rw [contentOf_list, Node.keys, Node.keysOfItems_eq_flatMap, List.flatMap_map, Item.placements,
        Item.placementsOfItems_eq_flatMap, List.map_flatMap]
      exact List.flatMap_congr fun item member => ih item member enclosing
  | map id entries ih =>
      rw [contentOf_map, Node.keys, Node.keysOfEntries_eq_flatMap, List.flatMap_map, Item.placements,
        Item.placementsOfEntries_eq_flatMap, List.map_flatMap]
      refine List.flatMap_congr fun entry member => ?_
      rw [List.map_cons, ← ih entry member]
      rfl

/-- The keys of the content are those of the table. -/
theorem keys_contentOf_root (doc : Document) : (doc.contentOf doc.root).keys = doc.keys.toList := by
  rw [keys_contentOf [], ← Function.comp_def doc.key, ← List.map_map, keys_placements_root,
    List.map_map]
  refine List.ext_getElem ?_ fun index counted listed => ?_
  · rw [List.length_map, List.length_range', ← doc.keys_size, Array.length_toList]
  · have found : doc.keys[index]? = some doc.keys.toList[index] := by
      rw [← Array.getElem?_toList, List.getElem?_eq_getElem listed]
    rw [List.getElem_map, List.getElem_range', Nat.zero_add, Nat.one_mul, Function.comp_apply,
      Document.key, found]
    rfl

theorem nodeCount_contentOf_number (node : Node) (firstNode firstKey : Nat) :
    (doc.contentOf (node.number firstNode firstKey)).nodeCount = node.nodeCount := by
  rw [← Node.length_subtrees, subtrees_contentOf, List.length_map, Node.length_subtrees_number]

theorem length_keys_contentOf_number (node : Node) (firstNode firstKey : Nat) :
    (doc.contentOf (node.number firstNode firstKey)).keys.length = node.keys.length := by
  have counted := congrArg List.length (Item.placements_number [] node firstNode firstKey)
  rw [keys_contentOf [], List.length_map]
  simpa using counted

mutual

/-- Numbers depend on the shape of a tree, not on its keys. -/
theorem number_contentOf : ∀ (node : Node) (firstNode firstKey : Nat),
    (doc.contentOf (node.number firstNode firstKey)).number firstNode firstKey =
      node.number firstNode firstKey
  | .null, _, _ => rfl
  | .text _, _, _ => rfl
  | .list items, firstNode, firstKey =>
      congrArg (Item.list ⟨firstNode⟩) (numberItems_contentOf items (firstNode + 1) firstKey)
  | .map entries, firstNode, firstKey =>
      congrArg (Item.map ⟨firstNode⟩) (numberEntries_contentOf entries (firstNode + 1) firstKey)

theorem numberItems_contentOf : ∀ (items : List Node) (firstNode firstKey : Nat),
    Node.numberItems firstNode firstKey
        (doc.contentOfItems (Node.numberItems firstNode firstKey items)) =
      Node.numberItems firstNode firstKey items
  | [], _, _ => rfl
  | item :: rest, firstNode, firstKey => by
      rw [Node.numberItems, contentOfItems, Node.numberItems, number_contentOf item,
        nodeCount_contentOf_number, length_keys_contentOf_number, numberItems_contentOf rest]

theorem numberEntries_contentOf : ∀ (entries : List (Key × Node)) (firstNode firstKey : Nat),
    Node.numberEntries firstNode firstKey
        (doc.contentOfEntries (Node.numberEntries firstNode firstKey entries)) =
      Node.numberEntries firstNode firstKey entries
  | [], _, _ => rfl
  | (_, value) :: rest, firstNode, firstKey => by
      rw [Node.numberEntries, contentOfEntries, Node.numberEntries, number_contentOf value,
        nodeCount_contentOf_number, length_keys_contentOf_number, numberEntries_contentOf rest]

end

theorem number_contentOf_root (doc : Document) : (doc.contentOf doc.root).number 0 0 = doc.root := by
  rw [doc.root_eq, number_contentOf]

end Document

end ThreatModel
