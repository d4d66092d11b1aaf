import Mathlib.Data.List.Perm.Basic
import ThreatModel.Document.Search
import ThreatModel.Proofs.Document.Numbering

/-!
The order of searches. Both searches go through the entries of a tree in one order: the first key found
is the first wanted one of the order, and all keys found are all wanted ones in that order.
-/

namespace ThreatModel

namespace Item

mutual

/-- The entries at and below a node as a search meets them: those of a mapping come before those below
its values, one value after the other. -/
def searchOrder : Item → List (KeyId × Item)
  | .null _ => []
  | .text _ _ => []
  | .list _ items => searchOrderOfItems items
  | .map _ entries => entries ++ searchOrderOfValues entries

def searchOrderOfItems : List Item → List (KeyId × Item)
  | [] => []
  | item :: rest => searchOrder item ++ searchOrderOfItems rest

def searchOrderOfValues : List (KeyId × Item) → List (KeyId × Item)
  | [] => []
  | (_, value) :: rest => searchOrder value ++ searchOrderOfValues rest

end

mutual

theorem findKey?_eq_find? (wanted : KeyId → Bool) :
    ∀ item : Item, item.findKey? wanted = item.searchOrder.find? fun entry => wanted entry.1
  | .null _ => rfl
  | .text _ _ => rfl
  | .list _ items => findKeyInItems?_eq_find? wanted items
  | .map _ entries => by
      rw [findKey?, searchOrder, List.find?_append, findKeyInValues?_eq_find? wanted entries]

theorem findKeyInItems?_eq_find? (wanted : KeyId → Bool) :
    ∀ items : List Item, findKeyInItems? wanted items =
      (searchOrderOfItems items).find? fun entry => wanted entry.1
  | [] => rfl
  | item :: rest => by
      rw [findKeyInItems?, searchOrderOfItems, List.find?_append, findKey?_eq_find? wanted item,
        findKeyInItems?_eq_find? wanted rest]

theorem findKeyInValues?_eq_find? (wanted : KeyId → Bool) :
    ∀ entries : List (KeyId × Item), findKeyInValues? wanted entries =
      (searchOrderOfValues entries).find? fun entry => wanted entry.1
  | [] => rfl
  | (_, value) :: rest => by
      rw [findKeyInValues?, searchOrderOfValues, List.find?_append, findKey?_eq_find? wanted value,
        findKeyInValues?_eq_find? wanted rest]

end

mutual

theorem findKeys_eq_filter (wanted : KeyId → Bool) :
    ∀ item : Item, item.findKeys wanted = item.searchOrder.filter fun entry => wanted entry.1
  | .null _ => rfl
  | .text _ _ => rfl
  | .list _ items => findKeysInItems_eq_filter wanted items
  | .map _ entries => by
      rw [findKeys, searchOrder, List.filter_append, findKeysInValues_eq_filter wanted entries]

theorem findKeysInItems_eq_filter (wanted : KeyId → Bool) :
    ∀ items : List Item, findKeysInItems wanted items =
      (searchOrderOfItems items).filter fun entry => wanted entry.1
  | [] => rfl
  | item :: rest => by
      rw [findKeysInItems, searchOrderOfItems, List.filter_append, findKeys_eq_filter wanted item,
        findKeysInItems_eq_filter wanted rest]

theorem findKeysInValues_eq_filter (wanted : KeyId → Bool) :
    ∀ entries : List (KeyId × Item), findKeysInValues wanted entries =
      (searchOrderOfValues entries).filter fun entry => wanted entry.1
  | [] => rfl
  | (_, value) :: rest => by
      rw [findKeysInValues, searchOrderOfValues, List.filter_append,
        findKeys_eq_filter wanted value, findKeysInValues_eq_filter wanted rest]

end

theorem searchOrderOfItems_eq_flatMap (items : List Item) :
    searchOrderOfItems items = items.flatMap searchOrder := by
  induction items with
  | nil => rfl
  | cons item rest ih => simp [searchOrderOfItems, ih]

theorem searchOrderOfValues_eq_flatMap (entries : List (KeyId × Item)) :
    searchOrderOfValues entries = entries.flatMap fun entry => entry.2.searchOrder := by
  induction entries with
  | nil => rfl
  | cons entry rest ih => simp [searchOrderOfValues, ih]

/-- The search meets the entries of the subtrees and no others. -/
theorem mem_searchOrder_iff {item : Item} {entry : KeyId × Item} :
    entry ∈ item.searchOrder ↔ item.HasEntry entry := by
  induction item using Item.induction with
  | null id => simp [searchOrder, HasEntry, subtrees, entries]
  | text id leaf => simp [searchOrder, HasEntry, subtrees, entries]
  | list id items ih =>
      rw [searchOrder, searchOrderOfItems_eq_flatMap, List.mem_flatMap, HasEntry, subtrees_list]
      constructor
      · rintro ⟨item, member, met⟩
        obtain ⟨mapping, within, listed⟩ := (ih item member).mp met
        exact ⟨mapping, List.mem_cons_of_mem _ (List.mem_flatMap.mpr ⟨item, member, within⟩), listed⟩
      · rintro ⟨mapping, within, listed⟩
        rcases List.mem_cons.mp within with rfl | deeper
        · cases listed
        · obtain ⟨item, member, below⟩ := List.mem_flatMap.mp deeper
          exact ⟨item, member, (ih item member).mpr ⟨mapping, below, listed⟩⟩
  | map id entries ih =>
      rw [searchOrder, searchOrderOfValues_eq_flatMap, List.mem_append, List.mem_flatMap, HasEntry,
        subtrees_map]
      constructor
      · rintro (own | ⟨item, member, met⟩)
        · exact ⟨_, List.mem_cons_self, own⟩
        · obtain ⟨mapping, within, listed⟩ := (ih item member).mp met
          exact ⟨mapping, List.mem_cons_of_mem _ (List.mem_flatMap.mpr ⟨item, member, within⟩), listed⟩
      · rintro ⟨mapping, within, listed⟩
        rcases List.mem_cons.mp within with rfl | deeper
        · exact .inl listed
        · obtain ⟨item, member, below⟩ := List.mem_flatMap.mp deeper
          exact .inr ⟨item, member, (ih item member).mpr ⟨mapping, below, listed⟩⟩

theorem hasEntry_of_searchOrder {item : Item} {entry : KeyId × Item} {before after : List (KeyId × Item)}
    (order : item.searchOrder = before ++ entry :: after) : item.HasEntry entry := by
  rw [← mem_searchOrder_iff, order]
  exact List.mem_append_right _ List.mem_cons_self

theorem LeadsTo.searchOrder_infix {outer inner : Item} {keys : List KeyId}
    (path : outer.LeadsTo keys inner) : inner.searchOrder <:+: outer.searchOrder := by
  induction path with
  | here => exact List.infix_rfl
  | item _ member ih =>
      refine List.IsInfix.trans ?_ ih
      rw [searchOrder, searchOrderOfItems_eq_flatMap, List.flatMap_def]
      exact List.infix_of_mem_flatten (List.mem_map_of_mem member)
  | value _ member ih =>
      refine List.IsInfix.trans ?_ ih
      rw [searchOrder, searchOrderOfValues_eq_flatMap, List.flatMap_def]
      have inValues := List.infix_of_mem_flatten
        (List.mem_map_of_mem (f := fun entry : KeyId × Item => entry.2.searchOrder) member)
      exact inValues.trans (List.suffix_append _ _).isInfix

/-- The search meets each key as often as the numbering gives it out. -/
theorem searchOrder_perm_placements (item : Item) (enclosing : List KeyId) :
    (item.searchOrder.map (·.1)).Perm ((item.placements enclosing).map (·.1)) := by
  induction item using Item.induction generalizing enclosing with
  | null id => exact .refl _
  | text id leaf => exact .refl _
  | list id items ih =>
      rw [searchOrder, searchOrderOfItems_eq_flatMap, placements, placementsOfItems_eq_flatMap,
        List.map_flatMap, List.map_flatMap]
      exact List.Perm.flatMap_left items fun item member => ih item member enclosing
  | map id entries ih =>
      rw [searchOrder, searchOrderOfValues_eq_flatMap, placements, placementsOfEntries_eq_flatMap,
        List.map_append, List.map_flatMap, List.map_flatMap]
      refine (List.map_append_flatMap_perm entries _ _).trans ?_
      exact List.Perm.flatMap_left entries fun entry member =>
        (ih entry member (entry.1 :: enclosing)).cons entry.1

end Item

namespace Document

variable {doc : Document} {tag : String} {key : KeyId} {node value : Item}

theorem mem_findAllTagged_iff :
    (key, value) ∈ doc.findAllTagged node tag ↔
      node.HasEntry (key, value) ∧ (doc.key key).hasTag tag := by
  rw [findAllTagged, Item.findKeys_eq_filter, List.mem_filter, Item.mem_searchOrder_iff]

theorem nodup_searchOrder (stands : node ∈ doc.root.subtrees) :
    (node.searchOrder.map (·.1)).Nodup := by
  have distinct : (doc.root.searchOrder.map (·.1)).Nodup := by
    rw [(doc.root.searchOrder_perm_placements []).nodup_iff, doc.keys_placements_root]
    exact List.Pairwise.map _ (fun _ _ different same => different (KeyId.mk.inj same))
      List.nodup_range'
  obtain ⟨keys, path⟩ := Item.exists_leadsTo stands
  exact (path.searchOrder_infix.sublist.map _).nodup distinct

/-- A search that meets its first hit below an inner node finds it from there, too. -/
theorem findTagged?_of_mem_subtrees {inner : Item} (stands : node ∈ doc.root.subtrees)
    (below : inner ∈ node.subtrees) (found : doc.findTagged? node tag = some (key, value))
    (holds : inner.HasKey key) : doc.findTagged? inner tag = some (key, value) := by
  rw [findTagged?, Item.findKey?_eq_find?] at found ⊢
  obtain ⟨keys, path⟩ := Item.exists_leadsTo below
  obtain ⟨before, after, order⟩ := path.searchOrder_infix
  obtain ⟨own, listed⟩ := holds
  have met := Item.mem_searchOrder_iff.mpr listed
  have distinct := nodup_searchOrder stands
  have carries := List.find?_some found
  rw [← order, List.append_assoc, List.find?_append] at found
  rw [← order, List.append_assoc, List.map_append] at distinct
  cases earlier : before.find? fun entry => (doc.key entry.1).hasTag tag with
  | some entry =>
      rw [earlier] at found
      cases found
      have inBefore := List.mem_map_of_mem (f := Prod.fst) (List.mem_of_find?_eq_some earlier)
      have inInner : key ∈ (inner.searchOrder ++ after).map (·.1) :=
        List.mem_map.mpr ⟨_, List.mem_append_left _ met, rfl⟩
      exact absurd inInner fun again => (List.nodup_append.mp distinct).2.2 _ inBefore _ again rfl
  | none =>
      rw [earlier, List.find?_append] at found
      cases here : inner.searchOrder.find? fun entry => (doc.key entry.1).hasTag tag with
      | some entry =>
          rw [here] at found
          exact found
      | none => exact absurd carries (List.find?_eq_none.mp here (key, own) met)

/-- `key` is the first key below the node, in the order of searches, that carries the tag. -/
def FirstBelow (doc : Document) (node : Item) (tag : String) (key : KeyId) : Prop :=
  ∃ before value after, node.searchOrder = before ++ (key, value) :: after ∧
    (doc.key key).hasTag tag ∧ ∀ entry ∈ before, ¬ (doc.key entry.1).hasTag tag

theorem FirstBelow.hasEntry (stands : node ∈ doc.root.subtrees)
    (first : doc.FirstBelow node tag key) : node.HasEntry (key, doc.valueOf key) := by
  obtain ⟨before, value, after, order, _, _⟩ := first
  have holds := Item.hasEntry_of_searchOrder order
  rw [valueOf_of_hasEntry (holds.mono stands)]
  exact holds

theorem findTagged?_eq_some_iff (stands : node ∈ doc.root.subtrees) :
    doc.findTagged? node tag = some (key, value) ↔
      doc.FirstBelow node tag key ∧ value = doc.valueOf key := by
  rw [findTagged?, Item.findKey?_eq_find?, List.find?_eq_some_iff_append]
  constructor
  · rintro ⟨carries, before, after, order, none_before⟩
    have first : doc.FirstBelow node tag key :=
      ⟨before, value, after, order, carries, by simpa using none_before⟩
    have holds := Item.hasEntry_of_searchOrder order
    exact ⟨first, (valueOf_of_hasEntry (holds.mono stands)).symm⟩
  · rintro ⟨⟨before, found, after, order, carries, none_before⟩, rfl⟩
    have holds := Item.hasEntry_of_searchOrder order
    rw [valueOf_of_hasEntry (holds.mono stands)]
    exact ⟨carries, before, after, order, by simpa using none_before⟩

/-- `key` is the first key of the document, in the order of searches, that carries the tag. -/
def FirstCarrier (doc : Document) (tag : String) (key : KeyId) : Prop :=
  ∃ before value after, doc.root.searchOrder = before ++ (key, value) :: after ∧
    (doc.key key).hasTag tag ∧ ∀ entry ∈ before, ¬ (doc.key entry.1).hasTag tag

theorem FirstCarrier.hasEntry (first : doc.FirstCarrier tag key) :
    doc.root.HasEntry (key, doc.valueOf key) :=
  FirstBelow.hasEntry (Item.self_mem_subtrees _) first

theorem findTagged?_root_eq_some_iff :
    doc.findTagged? doc.root tag = some (key, value) ↔
      doc.FirstCarrier tag key ∧ value = doc.valueOf key :=
  findTagged?_eq_some_iff (Item.self_mem_subtrees _)

theorem FirstCarrier.unique {left right : KeyId}
    (leftFirst : doc.FirstCarrier tag left) (rightFirst : doc.FirstCarrier tag right) :
    left = right := by
  have leftFound := findTagged?_root_eq_some_iff.mpr ⟨leftFirst, rfl⟩
  have rightFound := findTagged?_root_eq_some_iff.mpr ⟨rightFirst, rfl⟩
  rw [leftFound] at rightFound
  exact congrArg Prod.fst (Option.some.inj rightFound)

/-- Where a key carries a tag, there is a first one that does. -/
theorem exists_firstCarrier (holds : doc.root.HasKey key) (carries : (doc.key key).hasTag tag) :
    ∃ first, doc.FirstCarrier tag first := by
  obtain ⟨value, holds⟩ := holds
  cases found : doc.findTagged? doc.root tag with
  | some entry => exact ⟨entry.1, (findTagged?_root_eq_some_iff.mp found).1⟩
  | none =>
      rw [findTagged?, Item.findKey?_eq_find?, List.find?_eq_none] at found
      exact absurd carries (found _ (Item.mem_searchOrder_iff.mpr holds))

end Document

end ThreatModel
