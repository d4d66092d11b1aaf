import ThreatModel.Proofs.Document.Interning
import ThreatModel.Proofs.Document.Parts

/-!
Reading a numbered tree back. Numbering puts the keys of a tree into a table and leaves everything else
where it stands. So a tree whose mappings have distinct names is rebuilt from each of its nodes, and the
ways to write it as JSON agree.
-/

namespace ThreatModel

/-- A name that stands once in a list does not stand before its place. -/
theorem not_mem_map_of_nodup_append {before after : List α} {entry : α} {name : α → β}
    (distinct : ((before ++ entry :: after).map name).Nodup) : name entry ∉ before.map name := by
  intro present
  rw [List.map_append] at distinct
  exact (List.nodup_append.mp distinct).2.2 _ present _ List.mem_cons_self rfl

namespace Mapping

variable {entries added : Mapping} {key : Key} {value : Node}

theorem insert_of_absent (absent : key.name ∉ names entries) :
    insert entries key value = entries ++ [(key, value)] := by
  induction entries with
  | nil => rfl
  | cons first rest ih =>
      rw [names, List.map_cons, List.mem_cons, not_or] at absent
      have different : ¬ first.1.name = key.name := fun same => absent.1 same.symm
      rw [insert, if_neg different, ih absent.2, List.cons_append]

theorem foldl_insert_of_nodup {done : Mapping} (distinct : (names (done ++ added)).Nodup) :
    added.foldl (fun done entry => insert done entry.1 entry.2) done = done ++ added := by
  induction added generalizing done with
  | nil => exact (List.append_nil done).symm
  | cons entry rest ih =>
      have absent : entry.1.name ∉ names done := not_mem_map_of_nodup_append distinct
      rw [List.append_cons] at distinct
      rw [List.foldl_cons, insert_of_absent absent, ih distinct, ← List.append_cons]

theorem ofEntries_of_nodup (distinct : (names added).Nodup) : ofEntries added = added :=
  foldl_insert_of_nodup distinct

end Mapping

theorem Json.putMember_of_absent {members : List (String × Json)} {name : String} {value : Json}
    (absent : name ∉ members.map (·.1)) :
    putMember members name value = members ++ [(name, value)] := by
  rw [putMember, if_neg]
  simpa using absent

namespace Node

def entries : Node → Mapping
  | .map entries => entries
  | _ => []

mutual

/-- The node and all nodes below it, in document order. -/
def subtrees : Node → List Node
  | .null => [.null]
  | .text leaf => [.text leaf]
  | .list items => .list items :: subtreesOfItems items
  | .map entries => .map entries :: subtreesOfEntries entries

def subtreesOfItems : List Node → List Node
  | [] => []
  | item :: rest => subtrees item ++ subtreesOfItems rest

def subtreesOfEntries : List (Key × Node) → List Node
  | [] => []
  | (_, value) :: rest => subtrees value ++ subtreesOfEntries rest

end

theorem subtreesOfItems_eq_flatMap (items : List Node) :
    subtreesOfItems items = items.flatMap subtrees := by
  induction items with
  | nil => rfl
  | cons item rest ih => simp [subtreesOfItems, ih]

theorem subtreesOfEntries_eq_flatMap (entries : List (Key × Node)) :
    subtreesOfEntries entries = entries.flatMap fun entry => entry.2.subtrees := by
  induction entries with
  | nil => rfl
  | cons entry rest ih => simp [subtreesOfEntries, ih]

@[simp] theorem subtrees_list (items : List Node) :
    (Node.list items).subtrees = .list items :: items.flatMap subtrees := by
  rw [subtrees, subtreesOfItems_eq_flatMap]

@[simp] theorem subtrees_map (entries : List (Key × Node)) :
    (Node.map entries).subtrees =
      .map entries :: entries.flatMap fun entry => entry.2.subtrees := by
  rw [subtrees, subtreesOfEntries_eq_flatMap]

/-- In no mapping of the tree does a name stand twice. -/
def DistinctNames (tree : Node) : Prop :=
  ∀ node ∈ tree.subtrees, (Mapping.names node.entries).Nodup

instance (tree : Node) : Decidable tree.DistinctNames :=
  inferInstanceAs (Decidable (∀ node ∈ tree.subtrees, (Mapping.names node.entries).Nodup))

variable {items : List Node} {entries : Mapping}

@[simp] theorem distinctNames_list :
    (Node.list items).DistinctNames ↔ ∀ item ∈ items, item.DistinctNames := by
  simp only [DistinctNames, subtrees_list, List.forall_mem_cons, List.forall_mem_flatMap]
  exact and_iff_right List.nodup_nil

@[simp] theorem distinctNames_map :
    (Node.map entries).DistinctNames ↔
      (Mapping.names entries).Nodup ∧ ∀ entry ∈ entries, entry.2.DistinctNames := by
  simp only [DistinctNames, subtrees_map, List.forall_mem_cons, List.forall_mem_flatMap]
  rfl

theorem DistinctNames.of_mem_subtrees {tree node : Node} (distinct : tree.DistinctNames)
    (below : node ∈ tree.subtrees) : node.DistinctNames := by
  induction tree using Node.induction with
  | null =>
      obtain rfl := List.mem_singleton.mp below
      exact distinct
  | text leaf =>
      obtain rfl := List.mem_singleton.mp below
      exact distinct
  | list items ih =>
      rw [subtrees_list] at below
      rcases List.mem_cons.mp below with rfl | deeper
      · exact distinct
      · obtain ⟨item, member, below⟩ := List.mem_flatMap.mp deeper
        exact ih item member (distinctNames_list.mp distinct item member) below
  | map entries ih =>
      rw [subtrees_map] at below
      rcases List.mem_cons.mp below with rfl | deeper
      · exact distinct
      · obtain ⟨entry, member, below⟩ := List.mem_flatMap.mp deeper
        exact ih entry member ((distinctNames_map.mp distinct).2 entry member) below

theorem itemsToValues_eq_map (items : List Node) : itemsToValues items = items.map toValue := by
  induction items with
  | nil => rfl
  | cons item rest ih => rw [itemsToValues, ih, List.map_cons]

theorem putEntries_of_nodup {members : List (String × Json)}
    (distinct : (members.map (·.1) ++ Mapping.names entries).Nodup) :
    putEntries members entries =
      members ++ entries.map fun entry => (entry.1.name, entry.2.toValue) := by
  induction entries generalizing members with
  | nil => exact (List.append_nil members).symm
  | cons entry rest ih =>
      have absent : entry.1.name ∉ members.map (·.1) := by
        intro present
        exact (List.nodup_append.mp distinct).2.2 _ present _ List.mem_cons_self rfl
      have distinctRest : ((members ++ [(entry.1.name, entry.2.toValue)]).map (·.1) ++
          Mapping.names rest).Nodup := by
        rw [List.map_append, List.append_assoc]
        exact distinct
      rw [putEntries, Json.putMember_of_absent absent, ih distinctRest, List.append_assoc]
      rfl

theorem toValue_eq_toJson {node : Node} (distinct : node.DistinctNames) :
    node.toValue = node.toJson := by
  induction node using Node.induction with
  | null => rfl
  | text leaf => rfl
  | list items ih =>
      have sameItems : items.map toValue = items.map toJson :=
        List.map_congr_left fun item member =>
          ih item member (distinctNames_list.mp distinct item member)
      rw [toValue, itemsToValues_eq_map, toJson_list, sameItems]
  | map entries ih =>
      obtain ⟨distinctHere, distinctBelow⟩ := distinctNames_map.mp distinct
      rw [toValue, putEntries_of_nodup (by simpa using distinctHere), toJson_map, List.nil_append]
      refine congrArg Json.object (List.map_congr_left fun entry member => ?_)
      rw [ih entry member (distinctBelow entry member)]

end Node

namespace Document

mutual

/-- The tree below a node entry by entry, as it stands. -/
def contentOf (doc : Document) : Item → Node
  | .null _ => .null
  | .text _ leaf => .text leaf
  | .list _ items => .list (contentOfItems doc items)
  | .map _ entries => .map (contentOfEntries doc entries)

def contentOfItems (doc : Document) : List Item → List Node
  | [] => []
  | item :: rest => contentOf doc item :: contentOfItems doc rest

def contentOfEntries (doc : Document) : List (KeyId × Item) → List (Key × Node)
  | [] => []
  | (key, value) :: rest => (doc.key key, contentOf doc value) :: contentOfEntries doc rest

end

variable {doc : Document}

@[simp] theorem contentOf_list (id : NodeId) (items : List Item) :
    doc.contentOf (.list id items) = .list (items.map doc.contentOf) := by
  rw [contentOf]
  congr 1
  induction items with
  | nil => rfl
  | cons item rest ih => rw [contentOfItems, ih, List.map_cons]

@[simp] theorem contentOf_map (id : NodeId) (entries : List (KeyId × Item)) :
    doc.contentOf (.map id entries) = .map (entries.map (Prod.map doc.key doc.contentOf)) := by
  rw [contentOf]
  congr 1
  induction entries with
  | nil => rfl
  | cons entry rest ih => rw [contentOfEntries, ih, List.map_cons, Prod.map]

theorem toItems_eq_map (items : List Item) : doc.toItems items = items.map doc.toNode := by
  induction items with
  | nil => rfl
  | cons item rest ih => rw [toItems, ih, List.map_cons]

theorem toEntries_eq_map (entries : List (KeyId × Item)) :
    doc.toEntries entries = entries.map (Prod.map doc.key doc.toNode) := by
  induction entries with
  | nil => rfl
  | cons entry rest ih => rw [toEntries, ih, List.map_cons, Prod.map]

theorem itemsToJson_eq_map (items : List Item) : doc.itemsToJson items = items.map doc.toJson := by
  induction items with
  | nil => rfl
  | cons item rest ih => rw [itemsToJson, ih, List.map_cons]

theorem entriesToJson_eq_map (entries : List (KeyId × Item)) :
    doc.entriesToJson entries = entries.map fun entry =>
      ((doc.key entry.1).name, doc.toJson entry.2) := by
  induction entries with
  | nil => rfl
  | cons entry rest ih => rw [entriesToJson, ih, List.map_cons]

theorem subtrees_contentOf (item : Item) :
    (doc.contentOf item).subtrees = item.subtrees.map doc.contentOf := by
  induction item using Item.induction with
  | null id => rfl
  | text id leaf => rfl
  | list id items ih =>
      rw [Item.subtrees_list, List.map_cons, contentOf_list, Node.subtrees_list, List.flatMap_map,
        List.map_flatMap, List.flatMap_congr ih]
  | map id entries ih =>
      rw [Item.subtrees_map, List.map_cons, contentOf_map, Node.subtrees_map, List.flatMap_map,
        List.map_flatMap]
      exact congrArg _ (List.flatMap_congr ih)

/-- Where names are distinct, rebuilding a tree merges no entries. -/
theorem toNode_eq_contentOf {item : Item} (distinct : (doc.contentOf item).DistinctNames) :
    doc.toNode item = doc.contentOf item := by
  induction item using Item.induction with
  | null id => rfl
  | text id leaf => rfl
  | list id items ih =>
      rw [contentOf_list, Node.distinctNames_list, List.forall_mem_map] at distinct
      have sameItems : items.map doc.toNode = items.map doc.contentOf :=
        List.map_congr_left fun item member => ih item member (distinct item member)
      rw [toNode, toItems_eq_map, contentOf_list, sameItems]
  | map id entries ih =>
      rw [contentOf_map, Node.distinctNames_map, List.forall_mem_map] at distinct
      have sameEntries : entries.map (Prod.map doc.key doc.toNode) =
          entries.map (Prod.map doc.key doc.contentOf) :=
        List.map_congr_left fun entry member =>
          Prod.ext rfl (ih entry member (distinct.2 entry member))
      rw [toNode, toEntries_eq_map, contentOf_map, sameEntries,
        Mapping.ofEntries_of_nodup distinct.1]

theorem toJson_eq_contentOf (item : Item) : doc.toJson item = (doc.contentOf item).toJson := by
  induction item using Item.induction with
  | null id => rfl
  | text id leaf => rfl
  | list id items ih =>
      rw [toJson, itemsToJson_eq_map, contentOf_list, Node.toJson_list, List.map_map]
      exact congrArg Json.array (List.map_congr_left ih)
  | map id entries ih =>
      rw [toJson, entriesToJson_eq_map, contentOf_map, Node.toJson_map, List.map_map]
      refine congrArg Json.object (List.map_congr_left fun entry member => ?_)
      exact Prod.ext rfl (ih entry member)

theorem key_of_prefix {key : Key} {rest : List Key} {firstKey : Nat}
    (listed : key :: rest <+: doc.keys.toList.drop firstKey) : doc.key ⟨firstKey⟩ = key := by
  obtain ⟨after, split⟩ := listed
  have found : doc.keys.toList[firstKey]? = some key := by
    rw [← List.head?_drop, ← split]
    rfl
  rw [Document.key, ← Array.getElem?_toList, found]
  rfl

theorem prefix_drop_of_append {first second keys : List Key} {firstKey : Nat}
    (listed : first ++ second <+: keys.drop firstKey) :
    second <+: keys.drop (firstKey + first.length) := by
  obtain ⟨after, split⟩ := listed
  refine ⟨after, ?_⟩
  rw [← List.drop_drop, ← split, List.append_assoc, List.drop_left]

mutual

theorem contentOf_number : ∀ (node : Node) (firstNode firstKey : Nat),
    node.keys <+: doc.keys.toList.drop firstKey →
      doc.contentOf (node.number firstNode firstKey) = node
  | .null, _, _, _ => rfl
  | .text _, _, _, _ => rfl
  | .list items, firstNode, firstKey, listed =>
      congrArg Node.list (contentOfItems_number items (firstNode + 1) firstKey listed)
  | .map entries, firstNode, firstKey, listed =>
      congrArg Node.map (contentOfEntries_number entries (firstNode + 1) firstKey listed)

theorem contentOfItems_number : ∀ (items : List Node) (firstNode firstKey : Nat),
    Node.keysOfItems items <+: doc.keys.toList.drop firstKey →
      doc.contentOfItems (Node.numberItems firstNode firstKey items) = items
  | [], _, _, _ => rfl
  | item :: rest, firstNode, firstKey, listed => by
      have own : item.keys <+: doc.keys.toList.drop firstKey :=
        (List.prefix_append _ _).trans listed
      have others := prefix_drop_of_append listed
      rw [Node.numberItems, contentOfItems, contentOf_number item firstNode firstKey own,
        contentOfItems_number rest _ _ others]

theorem contentOfEntries_number : ∀ (entries : List (Key × Node)) (firstNode firstKey : Nat),
    Node.keysOfEntries entries <+: doc.keys.toList.drop firstKey →
      doc.contentOfEntries (Node.numberEntries firstNode firstKey entries) = entries
  | [], _, _, _ => rfl
  | (key, value) :: rest, firstNode, firstKey, listed => by
      have ownKey := key_of_prefix listed
      have below : value.keys ++ Node.keysOfEntries rest <+: doc.keys.toList.drop (firstKey + 1) :=
        prefix_drop_of_append (show [key] ++ _ <+: _ from listed)
      have own : value.keys <+: doc.keys.toList.drop (firstKey + 1) :=
        (List.prefix_append _ _).trans below
      have others := prefix_drop_of_append below
      rw [Node.numberEntries, contentOfEntries, ownKey,
        contentOf_number value firstNode (firstKey + 1) own, contentOfEntries_number rest _ _ others]

end

theorem contentOf_root (tree : Node) : (ofNode tree).contentOf (ofNode tree).root = tree := by
  apply contentOf_number
  simp [ofNode]

/-- Taking a tree in loses nothing. -/
theorem interned_losslessly (tree : Node) (distinct : tree.DistinctNames) :
    Arena.empty.intern none tree = ((ofNode tree).root.id, (ofNode tree).arena) ∧
    (ofNode tree).toNode (ofNode tree).root = tree ∧
    (ofNode tree).nodes.size = tree.subtrees.length ∧
    ∀ (id : NodeId) (subtree : Node), tree.subtrees[id.index]? = some subtree →
      ∃ item, (ofNode tree).node? id = some item ∧ item.id = id ∧
        (ofNode tree).toNode item = subtree ∧
        (ofNode tree).toJson item = subtree.toJson ∧ subtree.toValue = subtree.toJson := by
  have contents : tree.subtrees =
      (ofNode tree).root.subtrees.map (ofNode tree).contentOf := by
    rw [← subtrees_contentOf, contentOf_root]
  refine ⟨Arena.intern_empty tree, ?_, ?_, ?_⟩
  · rw [toNode_eq_contentOf, contentOf_root]
    rw [contentOf_root]
    exact distinct
  · rw [contents, List.length_map]
    rfl
  · intro id subtree stands
    have distinctBelow := distinct.of_mem_subtrees (List.mem_of_getElem? stands)
    rw [contents, List.getElem?_map, Option.map_eq_some_iff] at stands
    obtain ⟨item, found, rfl⟩ := stands
    rw [← node?_eq_getElem?] at found
    exact ⟨item, found, (node?_eq_some_iff.mp found).2, toNode_eq_contentOf distinctBelow,
      toJson_eq_contentOf item, Node.toValue_eq_toJson distinctBelow⟩

/-- An asset whose name carries tags and a label, and was found on a line. -/
def locatedAsset : Node :=
  .map [(⟨"name", ["asset-name", "row-identifier"], .ofList [("colname", .string "Asset")]⟩,
      .text ⟨"DB", .ofList [("line", "3")]⟩),
    (.ofName "stores", .list [.ofString "Keys", .null])]

def locatedAssets : Node :=
  .map [(.withTags "assets" ["assets-data"], .list [locatedAsset, .ofString "none"])]

theorem interned_losslessly_of_located :
    locatedAssets.DistinctNames ∧
    Arena.empty.intern none locatedAssets =
      ((ofNode locatedAssets).root.id, (ofNode locatedAssets).arena) ∧
    (ofNode locatedAssets).toNode (ofNode locatedAssets).root = locatedAssets ∧
    (ofNode locatedAssets).nodes.size = 8 ∧
    locatedAssets.subtrees[2]? = some locatedAsset ∧
    ∃ item, (ofNode locatedAssets).node? ⟨2⟩ = some item ∧ item.id = ⟨2⟩ ∧
      (ofNode locatedAssets).toNode item = locatedAsset ∧
      (ofNode locatedAssets).toJson item = locatedAsset.toJson ∧
      locatedAsset.toValue = locatedAsset.toJson := by
  have distinct : locatedAssets.DistinctNames := by decide +kernel
  obtain ⟨interned, rebuilt, counted, below⟩ := interned_losslessly locatedAssets distinct
  exact ⟨distinct, interned, rebuilt, counted, rfl, below ⟨2⟩ locatedAsset rfl⟩

end Document

end ThreatModel
