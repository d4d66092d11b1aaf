import Mathlib.Data.List.Basic
import ThreatModel.Document.Rows
import ThreatModel.Proofs.Document.SearchOrder

/-!
Trees without the provenance of their texts. Numbers, places, texts and searches are those of the tree
itself, so nothing that is found in a document depends on provenance.
-/

namespace ThreatModel

namespace Item

mutual

/-- The tree with its texts' values alone. -/
def plain : Item → Item
  | .null id => .null id
  | .text id leaf => .text id leaf.plain
  | .list id items => .list id (plainItems items)
  | .map id entries => .map id (plainEntries entries)

def plainItems : List Item → List Item
  | [] => []
  | item :: rest => plain item :: plainItems rest

def plainEntries : List (KeyId × Item) → List (KeyId × Item)
  | [] => []
  | (key, value) :: rest => (key, plain value) :: plainEntries rest

end

def plainEntry (entry : KeyId × Item) : KeyId × Item := (entry.1, entry.2.plain)

theorem plainItems_eq_map (items : List Item) : plainItems items = items.map plain := by
  induction items with
  | nil => rfl
  | cons item rest ih => simp [plainItems, ih]

theorem plainEntries_eq_map (entries : List (KeyId × Item)) :
    plainEntries entries = entries.map plainEntry := by
  induction entries with
  | nil => rfl
  | cons entry rest ih => simp [plainEntries, plainEntry, ih]

@[simp] theorem plain_list (id : NodeId) (items : List Item) :
    (Item.list id items).plain = .list id (items.map plain) := by
  rw [plain, plainItems_eq_map]

@[simp] theorem plain_map (id : NodeId) (entries : List (KeyId × Item)) :
    (Item.map id entries).plain = .map id (entries.map plainEntry) := by
  rw [plain, plainEntries_eq_map]

@[simp] theorem plainEntry_fst (entry : KeyId × Item) : (plainEntry entry).1 = entry.1 := rfl

@[simp] theorem plainEntry_snd (entry : KeyId × Item) : (plainEntry entry).2 = entry.2.plain := rfl

@[simp] theorem id_plain (item : Item) : item.plain.id = item.id := by
  cases item <;> rfl

@[simp] theorem isMapping_plain (item : Item) : item.plain.isMapping = item.isMapping := by
  cases item <;> rfl

@[simp] theorem text?_plain (item : Item) : item.plain.text? = item.text? := by
  cases item <;> rfl

@[simp] theorem isEmptyValue_plain (item : Item) : item.plain.isEmptyValue = item.isEmptyValue := by
  cases item with
  | null | text => rfl
  | list | map => simp [isEmptyValue]

@[simp] theorem entries_plain (item : Item) : item.plain.entries = item.entries.map plainEntry := by
  cases item with
  | null | text | list => rfl
  | map => simp [entries]

@[simp] theorem texts_plain (item : Item) : item.plain.texts = item.texts := by
  induction item using Item.induction with
  | null id => rfl
  | text id leaf => rfl
  | list id items ih =>
      rw [plain_list, texts_list, texts_list, List.flatMap_map]
      exact List.flatMap_congr ih
  | map id entries _ => rfl

theorem subtrees_plain (item : Item) : item.plain.subtrees = item.subtrees.map plain := by
  induction item using Item.induction with
  | null id => rfl
  | text id leaf => rfl
  | list id items ih =>
      rw [plain_list, subtrees_list, subtrees_list, List.map_cons, plain_list, List.flatMap_map,
        List.map_flatMap, List.flatMap_congr ih]
  | map id entries ih =>
      rw [plain_map, subtrees_map, subtrees_map, List.map_cons, plain_map, List.flatMap_map,
        List.map_flatMap]
      exact congrArg _ (List.flatMap_congr ih)

theorem searchOrder_plain (item : Item) :
    item.plain.searchOrder = item.searchOrder.map plainEntry := by
  induction item using Item.induction with
  | null id => rfl
  | text id leaf => rfl
  | list id items ih =>
      rw [plain_list, searchOrder, searchOrder, searchOrderOfItems_eq_flatMap,
        searchOrderOfItems_eq_flatMap, List.flatMap_map, List.map_flatMap]
      exact List.flatMap_congr ih
  | map id entries ih =>
      rw [plain_map, searchOrder, searchOrder, searchOrderOfValues_eq_flatMap,
        searchOrderOfValues_eq_flatMap, List.flatMap_map, List.map_append, List.map_flatMap]
      exact congrArg _ (List.flatMap_congr ih)

@[simp] theorem findKey?_plain (wanted : KeyId → Bool) (item : Item) :
    item.plain.findKey? wanted = (item.findKey? wanted).map plainEntry := by
  rw [findKey?_eq_find?, findKey?_eq_find?, searchOrder_plain, List.find?_map]
  rfl

@[simp] theorem findKeys_plain (wanted : KeyId → Bool) (item : Item) :
    item.plain.findKeys wanted = (item.findKeys wanted).map plainEntry := by
  rw [findKeys_eq_filter, findKeys_eq_filter, searchOrder_plain, List.filter_map]
  rfl

@[simp] theorem ownIdentifier?_plain (identifies : KeyId → Bool) (item : Item) :
    item.plain.ownIdentifier? identifies = item.ownIdentifier? identifies := by
  simp [ownIdentifier?, Function.comp_def]

end Item

def Place.plain (place : Place) : Place := { place with value := place.value.plain }

namespace Item

mutual

theorem places_plain (enclosing : List KeyId) :
    ∀ item : Item, item.plain.places enclosing = (item.places enclosing).map Place.plain
  | .null _ => rfl
  | .text _ _ => rfl
  | .list _ items => placesOfItems_plain enclosing items
  | .map id entries => placesOfEntries_plain enclosing id entries

theorem placesOfItems_plain (enclosing : List KeyId) :
    ∀ items : List Item,
      placesOfItems enclosing (plainItems items) = (placesOfItems enclosing items).map Place.plain
  | [] => rfl
  | item :: rest => by
      rw [plainItems, placesOfItems, placesOfItems, List.map_append, places_plain enclosing item,
        placesOfItems_plain enclosing rest]

theorem placesOfEntries_plain (enclosing : List KeyId) (owner : NodeId) :
    ∀ entries : List (KeyId × Item), placesOfEntries enclosing owner (plainEntries entries) =
      (placesOfEntries enclosing owner entries).map Place.plain
  | [] => rfl
  | (key, value) :: rest => by
      rw [plainEntries, placesOfEntries, placesOfEntries, List.map_cons, List.map_append,
        places_plain (key :: enclosing) value, placesOfEntries_plain enclosing owner rest]
      rfl

end

mutual

theorem rowIds_plain (identifies : KeyId → Bool) (inherited : Option KeyId) :
    ∀ item : Item, item.plain.rowIds identifies inherited = item.rowIds identifies inherited
  | .null _ => rfl
  | .text _ _ => rfl
  | .list _ items => rowIdsOfItems_plain identifies inherited items
  | .map _ entries => rowIdsOfEntries_plain identifies inherited entries

theorem rowIdsOfItems_plain (identifies : KeyId → Bool) (inherited : Option KeyId) :
    ∀ items : List Item, rowIdsOfItems identifies inherited (plainItems items) =
      rowIdsOfItems identifies inherited items
  | [] => rfl
  | item :: rest => by
      rw [plainItems, rowIdsOfItems, rowIdsOfItems, ownIdentifier?_plain,
        rowIds_plain identifies _ item, rowIdsOfItems_plain identifies inherited rest]

theorem rowIdsOfEntries_plain (identifies : KeyId → Bool) (inherited : Option KeyId) :
    ∀ entries : List (KeyId × Item), rowIdsOfEntries identifies inherited (plainEntries entries) =
      rowIdsOfEntries identifies inherited entries
  | [] => rfl
  | (key, value) :: rest => by
      rw [plainEntries, rowIdsOfEntries, rowIdsOfEntries, rowIds_plain identifies inherited value,
        rowIdsOfEntries_plain identifies inherited rest]

end

mutual

theorem namedRows_plain (identifies : KeyId → Bool) :
    ∀ item : Item, item.plain.namedRows identifies = item.namedRows identifies
  | .null _ => rfl
  | .text _ _ => rfl
  | .list _ items => namedRowsOfItems_plain identifies items
  | .map _ entries => namedRowsOfEntries_plain identifies entries

theorem namedRowsOfItems_plain (identifies : KeyId → Bool) :
    ∀ items : List Item,
      namedRowsOfItems identifies (plainItems items) = namedRowsOfItems identifies items
  | [] => rfl
  | item :: rest => by
      rw [plainItems, namedRowsOfItems, namedRowsOfItems, ownIdentifier?_plain, id_plain,
        namedRows_plain identifies item, namedRowsOfItems_plain identifies rest]

theorem namedRowsOfEntries_plain (identifies : KeyId → Bool) :
    ∀ entries : List (KeyId × Item),
      namedRowsOfEntries identifies (plainEntries entries) = namedRowsOfEntries identifies entries
  | [] => rfl
  | (_, value) :: rest => by
      rw [plainEntries, namedRowsOfEntries, namedRowsOfEntries, namedRows_plain identifies value,
        namedRowsOfEntries_plain identifies rest]

end

end Item

namespace Node

mutual

/-- The shape and the texts of a tree; nothing is left of its keys. -/
def skeleton : Node → Node
  | .null => .null
  | .text leaf => .text leaf.plain
  | .list items => .list (skeletonOfItems items)
  | .map entries => .map (skeletonOfEntries entries)

def skeletonOfItems : List Node → List Node
  | [] => []
  | item :: rest => skeleton item :: skeletonOfItems rest

def skeletonOfEntries : List (Key × Node) → List (Key × Node)
  | [] => []
  | (_, value) :: rest => (default, skeleton value) :: skeletonOfEntries rest

end

mutual

@[simp] theorem nodeCount_skeleton : ∀ node : Node, node.skeleton.nodeCount = node.nodeCount
  | .null => rfl
  | .text _ => rfl
  | .list items => congrArg (1 + ·) (nodeCountOfItems_skeleton items)
  | .map entries => congrArg (1 + ·) (nodeCountOfEntries_skeleton entries)

theorem nodeCountOfItems_skeleton :
    ∀ items : List Node, nodeCountOfItems (skeletonOfItems items) = nodeCountOfItems items
  | [] => rfl
  | item :: rest => by
      rw [skeletonOfItems, nodeCountOfItems, nodeCountOfItems, nodeCount_skeleton item,
        nodeCountOfItems_skeleton rest]

theorem nodeCountOfEntries_skeleton :
    ∀ entries : List (Key × Node),
      nodeCountOfEntries (skeletonOfEntries entries) = nodeCountOfEntries entries
  | [] => rfl
  | (_, value) :: rest => by
      rw [skeletonOfEntries, nodeCountOfEntries, nodeCountOfEntries, nodeCount_skeleton value,
        nodeCountOfEntries_skeleton rest]

end

mutual

@[simp] theorem length_keys_skeleton :
    ∀ node : Node, node.skeleton.keys.length = node.keys.length
  | .null => rfl
  | .text _ => rfl
  | .list items => length_keysOfItems_skeleton items
  | .map entries => length_keysOfEntries_skeleton entries

theorem length_keysOfItems_skeleton :
    ∀ items : List Node,
      (keysOfItems (skeletonOfItems items)).length = (keysOfItems items).length
  | [] => rfl
  | item :: rest => by
      rw [skeletonOfItems, keysOfItems, keysOfItems, List.length_append, List.length_append,
        length_keys_skeleton item, length_keysOfItems_skeleton rest]

theorem length_keysOfEntries_skeleton :
    ∀ entries : List (Key × Node),
      (keysOfEntries (skeletonOfEntries entries)).length = (keysOfEntries entries).length
  | [] => rfl
  | (_, value) :: rest => by
      rw [skeletonOfEntries, keysOfEntries, keysOfEntries, List.length_cons, List.length_cons,
        List.length_append, List.length_append, length_keys_skeleton value,
        length_keysOfEntries_skeleton rest]

end

mutual

/-- Numbers depend on the shape alone. -/
theorem number_skeleton (firstNode firstKey : Nat) :
    ∀ node : Node,
      node.skeleton.number firstNode firstKey = (node.number firstNode firstKey).plain
  | .null => rfl
  | .text _ => rfl
  | .list items => congrArg _ (numberItems_skeleton (firstNode + 1) firstKey items)
  | .map entries => congrArg _ (numberEntries_skeleton (firstNode + 1) firstKey entries)

theorem numberItems_skeleton (firstNode firstKey : Nat) :
    ∀ items : List Node, numberItems firstNode firstKey (skeletonOfItems items) =
      Item.plainItems (numberItems firstNode firstKey items)
  | [] => rfl
  | item :: rest => by
      rw [skeletonOfItems, numberItems, numberItems, Item.plainItems,
        number_skeleton firstNode firstKey item, nodeCount_skeleton, length_keys_skeleton,
        numberItems_skeleton _ _ rest]

theorem numberEntries_skeleton (firstNode firstKey : Nat) :
    ∀ entries : List (Key × Node), numberEntries firstNode firstKey (skeletonOfEntries entries) =
      Item.plainEntries (numberEntries firstNode firstKey entries)
  | [] => rfl
  | (_, value) :: rest => by
      rw [skeletonOfEntries, numberEntries, numberEntries, Item.plainEntries,
        number_skeleton firstNode (firstKey + 1) value, nodeCount_skeleton, length_keys_skeleton,
        numberEntries_skeleton _ _ rest]

end

end Node

end ThreatModel
