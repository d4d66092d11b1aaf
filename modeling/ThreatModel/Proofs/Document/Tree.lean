import ThreatModel.Document.Basic

/-!
The shape of numbered trees. `LeadsTo` says which keys lie between a node and a node below it, nearest
first. The nodes that some keys lead to are the subtrees; the texts that no keys lead to are the texts of
the node.
-/

namespace ThreatModel

namespace Item

/-- Induction over a tree, where a list has the hypothesis of its elements and a mapping the one of its
values. -/
@[elab_as_elim]
theorem induction {motive : Item → Prop} (null : ∀ id, motive (.null id))
    (text : ∀ id leaf, motive (.text id leaf))
    (list : ∀ id items, (∀ item ∈ items, motive item) → motive (.list id items))
    (map : ∀ id entries, (∀ entry ∈ entries, motive entry.2) → motive (.map id entries))
    (item : Item) : motive item := by
  apply @Item.rec motive (fun items => ∀ item ∈ items, motive item)
    (fun entries => ∀ entry ∈ entries, motive entry.2) (fun entry => motive entry.2)
  · exact null
  · exact text
  · exact list
  · exact map
  · intro item member
    cases member
  · intro head rest headHolds restHolds item member
    rcases List.mem_cons.mp member with same | inRest
    · exact same ▸ headHolds
    · exact restHolds item inRest
  · intro entry member
    cases member
  · intro head rest headHolds restHolds entry member
    rcases List.mem_cons.mp member with same | inRest
    · exact same ▸ headHolds
    · exact restHolds entry inRest
  · intro key value holds
    exact holds

theorem subtreesOfItems_eq_flatMap (items : List Item) :
    subtreesOfItems items = items.flatMap subtrees := by
  induction items with
  | nil => rfl
  | cons item rest ih => simp [subtreesOfItems, ih]

theorem subtreesOfEntries_eq_flatMap (entries : List (KeyId × Item)) :
    subtreesOfEntries entries = entries.flatMap fun entry => entry.2.subtrees := by
  induction entries with
  | nil => rfl
  | cons entry rest ih => simp [subtreesOfEntries, ih]

@[simp] theorem subtrees_list (id : NodeId) (items : List Item) :
    (Item.list id items).subtrees = .list id items :: items.flatMap subtrees := by
  rw [subtrees, subtreesOfItems_eq_flatMap]

@[simp] theorem subtrees_map (id : NodeId) (entries : List (KeyId × Item)) :
    (Item.map id entries).subtrees =
      .map id entries :: entries.flatMap fun entry => entry.2.subtrees := by
  rw [subtrees, subtreesOfEntries_eq_flatMap]

theorem textsOfItems_eq_flatMap (items : List Item) : textsOfItems items = items.flatMap texts := by
  induction items with
  | nil => rfl
  | cons item rest ih => simp [textsOfItems, ih]

@[simp] theorem texts_list (id : NodeId) (items : List Item) :
    (Item.list id items).texts = items.flatMap texts := by
  rw [texts, textsOfItems_eq_flatMap]

theorem self_mem_subtrees (item : Item) : item ∈ item.subtrees := by
  cases item <;> simp [subtrees]

/-- `keys` lead from `outer` to `inner`, the one nearest to `inner` first. -/
inductive LeadsTo (outer : Item) : List KeyId → Item → Prop
  | here : LeadsTo outer [] outer
  | item {keys : List KeyId} {id : NodeId} {items : List Item} {item : Item} :
      LeadsTo outer keys (.list id items) → item ∈ items → LeadsTo outer keys item
  | value {keys : List KeyId} {id : NodeId} {entries : List (KeyId × Item)} {key : KeyId}
      {value : Item} : LeadsTo outer keys (.map id entries) → (key, value) ∈ entries →
      LeadsTo outer (key :: keys) value

variable {outer middle inner : Item} {keys : List KeyId} {key : KeyId} {value : Item}

theorem LeadsTo.trans {outerKeys : List KeyId} (first : outer.LeadsTo outerKeys middle)
    (second : middle.LeadsTo keys inner) : outer.LeadsTo (keys ++ outerKeys) inner := by
  induction second with
  | here => exact first
  | item _ member ih => exact .item ih member
  | value _ member ih => exact .value ih member

theorem LeadsTo.subtrees_subset (path : outer.LeadsTo keys inner) :
    inner.subtrees ⊆ outer.subtrees := by
  induction path with
  | here => exact List.Subset.refl _
  | item _ member ih =>
      refine List.Subset.trans (fun node below => ?_) ih
      rw [subtrees_list]
      exact List.mem_cons_of_mem _ (List.mem_flatMap.mpr ⟨_, member, below⟩)
  | value _ member ih =>
      refine List.Subset.trans (fun node below => ?_) ih
      rw [subtrees_map]
      exact List.mem_cons_of_mem _ (List.mem_flatMap.mpr ⟨_, member, below⟩)

theorem LeadsTo.mem_subtrees (path : outer.LeadsTo keys inner) : inner ∈ outer.subtrees :=
  path.subtrees_subset (self_mem_subtrees inner)

theorem exists_leadsTo (below : inner ∈ outer.subtrees) : ∃ keys, outer.LeadsTo keys inner := by
  induction outer using Item.induction with
  | null id =>
      obtain rfl : inner = .null id := by simpa [subtrees] using below
      exact ⟨[], .here⟩
  | text id leaf =>
      obtain rfl : inner = .text id leaf := by simpa [subtrees] using below
      exact ⟨[], .here⟩
  | list id items ih =>
      rw [subtrees_list] at below
      rcases List.mem_cons.mp below with rfl | deeper
      · exact ⟨[], .here⟩
      · obtain ⟨item, member, below⟩ := List.mem_flatMap.mp deeper
        obtain ⟨keys, path⟩ := ih item member below
        exact ⟨keys ++ [], .trans (.item .here member) path⟩
  | map id entries ih =>
      rw [subtrees_map] at below
      rcases List.mem_cons.mp below with rfl | deeper
      · exact ⟨[], .here⟩
      · obtain ⟨entry, member, below⟩ := List.mem_flatMap.mp deeper
        obtain ⟨keys, path⟩ := ih entry member below
        exact ⟨keys ++ [entry.1], .trans (.value .here member) path⟩

/-- Lists alone lead to the text: no key lies between. -/
def ListsText (item : Item) (text : String) : Prop :=
  ∃ id leaf, item.LeadsTo [] (.text id leaf) ∧ leaf.value = text

theorem LeadsTo.texts_subset (path : outer.LeadsTo [] inner) : inner.texts ⊆ outer.texts := by
  generalize noKeys : ([] : List KeyId) = keys at path
  induction path with
  | here => exact List.Subset.refl _
  | item _ member ih =>
      refine List.Subset.trans (fun text listed => ?_) (ih noKeys)
      rw [texts_list]
      exact List.mem_flatMap.mpr ⟨_, member, listed⟩
  | value => cases noKeys

theorem listsText_of_mem_texts {text : String} (listed : text ∈ outer.texts) :
    outer.ListsText text := by
  induction outer using Item.induction with
  | null | map => cases listed
  | text id leaf =>
      obtain rfl : text = leaf.value := List.mem_singleton.mp listed
      exact ⟨id, leaf, .here, rfl⟩
  | list id items ih =>
      rw [texts_list] at listed
      obtain ⟨item, member, listed⟩ := List.mem_flatMap.mp listed
      obtain ⟨textId, leaf, path, same⟩ := ih item member listed
      exact ⟨textId, leaf, .trans (.item .here member) path, same⟩

/-- The texts of a node are those that lists alone lead to. -/
theorem mem_texts_iff {item : Item} {text : String} : text ∈ item.texts ↔ item.ListsText text := by
  refine ⟨listsText_of_mem_texts, fun lists => ?_⟩
  obtain ⟨id, leaf, path, rfl⟩ := lists
  exact path.texts_subset List.mem_cons_self

theorem mem_subtrees_trans (below : inner ∈ middle.subtrees) (within : middle ∈ outer.subtrees) :
    inner ∈ outer.subtrees := by
  obtain ⟨_, path⟩ := exists_leadsTo within
  exact path.subtrees_subset below

/-- A mapping at or below a node has the entry. -/
def HasEntry (item : Item) (entry : KeyId × Item) : Prop :=
  ∃ mapping ∈ item.subtrees, entry ∈ mapping.entries

/-- The key belongs to a mapping at or below a node. -/
def HasKey (item : Item) (key : KeyId) : Prop := ∃ value, item.HasEntry (key, value)

theorem exists_map_of_mem_entries {mapping : Item} {entry : KeyId × Item}
    (member : entry ∈ mapping.entries) :
    ∃ entries, mapping = .map mapping.id entries ∧ entry ∈ entries := by
  cases mapping with
  | map id entries => exact ⟨entries, rfl, member⟩
  | null | text | list => cases member

theorem HasEntry.mono {entry : KeyId × Item} (holds : inner.HasEntry entry)
    (below : inner ∈ outer.subtrees) : outer.HasEntry entry := by
  obtain ⟨mapping, within, member⟩ := holds
  exact ⟨mapping, mem_subtrees_trans within below, member⟩

theorem HasEntry.value_mem_subtrees (holds : outer.HasEntry (key, value)) :
    value ∈ outer.subtrees := by
  obtain ⟨mapping, within, member⟩ := holds
  obtain ⟨entries, shape, listed⟩ := exists_map_of_mem_entries member
  rw [shape] at within
  obtain ⟨_, path⟩ := exists_leadsTo within
  exact (path.value listed).mem_subtrees

/-- The keys that lead to a node are keys of the tree. -/
theorem LeadsTo.hasKey (path : outer.LeadsTo keys inner) (member : key ∈ keys) :
    outer.HasKey key := by
  induction path with
  | here => cases member
  | item _ _ ih => exact ih member
  | value within listed ih =>
      rcases List.mem_cons.mp member with rfl | further
      · exact ⟨_, _, within.mem_subtrees, listed⟩
      · exact ih further

end Item

end ThreatModel
