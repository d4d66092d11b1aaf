import ThreatModel.Proofs.Document.Tree

/-!
Where the keys of a document stand. Keys are numbered in document order, so the table of places has at
the number of each key the mapping that the key belongs to, its value, and the keys that lead there.
-/

namespace ThreatModel

namespace Item

mutual

/-- The keys below a node with their places, in document order, inside the keys `enclosing` it. -/
def placements (enclosing : List KeyId) : Item → List (KeyId × Place)
  | .null _ => []
  | .text _ _ => []
  | .list _ items => placementsOfItems enclosing items
  | .map id entries => placementsOfEntries enclosing id entries

def placementsOfItems (enclosing : List KeyId) : List Item → List (KeyId × Place)
  | [] => []
  | item :: rest => placements enclosing item ++ placementsOfItems enclosing rest

def placementsOfEntries (enclosing : List KeyId) (owner : NodeId) :
    List (KeyId × Item) → List (KeyId × Place)
  | [] => []
  | (key, value) :: rest =>
      (key, ⟨owner, value, enclosing⟩) ::
        (placements (key :: enclosing) value ++ placementsOfEntries enclosing owner rest)

end

mutual

theorem places_eq_placements (enclosing : List KeyId) :
    ∀ item : Item, item.places enclosing = (item.placements enclosing).map (·.2)
  | .null _ => rfl
  | .text _ _ => rfl
  | .list _ items => placesOfItems_eq_placements enclosing items
  | .map id entries => placesOfEntries_eq_placements enclosing id entries

theorem placesOfItems_eq_placements (enclosing : List KeyId) :
    ∀ items : List Item,
      placesOfItems enclosing items = (placementsOfItems enclosing items).map (·.2)
  | [] => rfl
  | item :: rest => by
      simp [placesOfItems, placementsOfItems, places_eq_placements enclosing item,
        placesOfItems_eq_placements enclosing rest]

theorem placesOfEntries_eq_placements (enclosing : List KeyId) (owner : NodeId) :
    ∀ entries : List (KeyId × Item),
      placesOfEntries enclosing owner entries =
        (placementsOfEntries enclosing owner entries).map (·.2)
  | [] => rfl
  | (key, value) :: rest => by
      simp [placesOfEntries, placementsOfEntries, places_eq_placements (key :: enclosing) value,
        placesOfEntries_eq_placements enclosing owner rest]

end

mutual

/-- Numbering gives out key numbers in document order, without gaps. -/
theorem placements_number (enclosing : List KeyId) : ∀ (node : Node) (firstNode firstKey : Nat),
    ((node.number firstNode firstKey).placements enclosing).map (·.1) =
      (List.range' firstKey node.keys.length).map KeyId.mk
  | .null, _, _ => rfl
  | .text _, _, _ => rfl
  | .list items, firstNode, firstKey =>
      placementsOfItems_number enclosing items (firstNode + 1) firstKey
  | .map entries, firstNode, firstKey =>
      placementsOfEntries_number enclosing ⟨firstNode⟩ entries (firstNode + 1) firstKey

theorem placementsOfItems_number (enclosing : List KeyId) :
    ∀ (items : List Node) (firstNode firstKey : Nat),
      (placementsOfItems enclosing (Node.numberItems firstNode firstKey items)).map (·.1) =
        (List.range' firstKey (Node.keysOfItems items).length).map KeyId.mk
  | [], _, _ => rfl
  | item :: rest, firstNode, firstKey => by
      simp [Node.numberItems, placementsOfItems, Node.keysOfItems, ← List.range'_append_1,
        placements_number enclosing item, placementsOfItems_number enclosing rest]

theorem placementsOfEntries_number (enclosing : List KeyId) (owner : NodeId) :
    ∀ (entries : List (Key × Node)) (firstNode firstKey : Nat),
      (placementsOfEntries enclosing owner
          (Node.numberEntries firstNode firstKey entries)).map (·.1) =
        (List.range' firstKey (Node.keysOfEntries entries).length).map KeyId.mk
  | [], _, _ => rfl
  | (key, value) :: rest, firstNode, firstKey => by
      simp [Node.numberEntries, placementsOfEntries, Node.keysOfEntries, List.range'_succ,
        ← List.range'_append_1, placements_number (⟨firstKey⟩ :: enclosing) value,
        placementsOfEntries_number enclosing owner rest]

end

theorem placementsOfItems_eq_flatMap (enclosing : List KeyId) (items : List Item) :
    placementsOfItems enclosing items = items.flatMap (placements enclosing) := by
  induction items with
  | nil => rfl
  | cons item rest ih => simp [placementsOfItems, ih]

theorem placementsOfEntries_eq_flatMap (enclosing : List KeyId) (owner : NodeId)
    (entries : List (KeyId × Item)) :
    placementsOfEntries enclosing owner entries = entries.flatMap fun entry =>
      (entry.1, ⟨owner, entry.2, enclosing⟩) :: entry.2.placements (entry.1 :: enclosing) := by
  induction entries with
  | nil => rfl
  | cons entry rest ih => simp [placementsOfEntries, ih]

variable {outer inner value : Item} {keys : List KeyId} {key : KeyId} {id : NodeId}
  {entries : List (KeyId × Item)}

theorem LeadsTo.placements_subset (path : outer.LeadsTo keys inner) :
    inner.placements keys ⊆ outer.placements [] := by
  induction path with
  | here => exact List.Subset.refl _
  | item _ member ih =>
      refine List.Subset.trans (fun placement below => ?_) ih
      rw [placements, placementsOfItems_eq_flatMap]
      exact List.mem_flatMap.mpr ⟨_, member, below⟩
  | value _ member ih =>
      refine List.Subset.trans (fun placement below => ?_) ih
      rw [placements, placementsOfEntries_eq_flatMap]
      exact List.mem_flatMap.mpr ⟨_, member, List.mem_cons_of_mem _ below⟩

theorem LeadsTo.mem_placements (path : outer.LeadsTo keys (.map id entries))
    (member : (key, value) ∈ entries) :
    (key, ⟨id, value, keys⟩) ∈ outer.placements [] := by
  apply path.placements_subset
  rw [placements, placementsOfEntries_eq_flatMap]
  exact List.mem_flatMap.mpr ⟨_, member, List.mem_cons_self⟩

end Item

namespace Document

variable {doc : Document} {inner value : Item} {keys : List KeyId} {key : KeyId} {id : NodeId}
  {entries : List (KeyId × Item)}

/-- Notes about the keys of a tree, one for each in document order, are found at the keys' numbers. -/
theorem note_at_number {note : α} {notes : List (KeyId × α)} {count : Nat}
    (inOrder : notes.map (·.1) = (List.range' 0 count).map KeyId.mk) :
    (key, note) ∈ notes ↔ (notes.map (·.2))[key.index]? = some note := by
  have number : ∀ {index : Nat} {noted : KeyId × α}, notes[index]? = some noted →
      noted.1.index = index := by
    intro index noted found
    have numbered : some noted.1 = ((List.range' 0 count).map KeyId.mk)[index]? := by
      rw [← inOrder, List.getElem?_map, found]
      rfl
    rw [List.getElem?_map, eq_comm, Option.map_eq_some_iff] at numbered
    obtain ⟨counted, listed, same⟩ := numbered
    obtain ⟨bound, value⟩ := List.getElem?_eq_some_iff.mp listed
    rw [← same]
    simpa using value.symm
  constructor
  · intro member
    obtain ⟨index, found⟩ := List.mem_iff_getElem?.mp member
    obtain rfl : key.index = index := number found
    rw [List.getElem?_map, found]
    rfl
  · intro found
    rw [List.getElem?_map, Option.map_eq_some_iff] at found
    obtain ⟨⟨noted, _⟩, listed, rfl⟩ := found
    obtain rfl : noted = key := congrArg KeyId.mk (number listed)
    exact List.mem_of_getElem? listed

theorem keys_placements_root (doc : Document) :
    (doc.root.placements []).map (·.1) =
      (List.range' 0 doc.source.keys.length).map KeyId.mk := by
  rw [doc.root_eq]
  exact Item.placements_number [] doc.source 0 0

theorem place_of_mem_placements {place : Place} (placed : (key, place) ∈ doc.root.placements []) :
    doc.place key = place := by
  have found := (note_at_number doc.keys_placements_root).mp placed
  rw [← Item.places_eq_placements] at found
  rw [Document.place, doc.places_eq, List.getElem?_toArray, found]
  rfl

theorem place_of_leadsTo (path : doc.root.LeadsTo keys (.map id entries))
    (member : (key, value) ∈ entries) : doc.place key = ⟨id, value, keys⟩ :=
  place_of_mem_placements (path.mem_placements member)

theorem valueOf_of_hasEntry (holds : doc.root.HasEntry (key, value)) : doc.valueOf key = value := by
  obtain ⟨mapping, within, member⟩ := holds
  obtain ⟨entries, shape, listed⟩ := Item.exists_map_of_mem_entries member
  obtain ⟨keys, path⟩ := Item.exists_leadsTo within
  rw [shape] at path
  rw [valueOf, place_of_leadsTo path listed]

theorem mem_textsOf_iff {text : String} :
    text ∈ doc.textsOf key ↔ (doc.valueOf key).ListsText text :=
  Item.mem_texts_iff

/-- A node lies in the values of all the keys that lead to it. -/
theorem mem_valueOf_of_leadsTo (path : doc.root.LeadsTo keys inner) (member : key ∈ keys) :
    inner ∈ (doc.valueOf key).subtrees := by
  induction path with
  | here => cases member
  | item _ listed ih =>
      refine Item.mem_subtrees_trans ?_ (ih member)
      exact (Item.LeadsTo.item .here listed).mem_subtrees
  | value within listed ih =>
      rcases List.mem_cons.mp member with rfl | further
      · rw [valueOf_of_hasEntry ⟨_, within.mem_subtrees, listed⟩]
        exact Item.self_mem_subtrees _
      · refine Item.mem_subtrees_trans ?_ (ih further)
        exact (Item.LeadsTo.value .here listed).mem_subtrees

end Document

end ThreatModel
