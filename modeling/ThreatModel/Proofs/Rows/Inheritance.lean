import ThreatModel.Proofs.Rows.Naming

/-!
Which key names the row of a key. The index hands identifiers down from list to element and from mapping
to value; what arrives at a key is the identifier of the innermost row around it in which one is found.
A key that names a row arrives at itself, because a search that meets a key first from an outer row meets
it first from every row in between.
-/

namespace ThreatModel

namespace Item

variable {identifies : KeyId → Bool}

mutual

/-- The keys below a node in document order, each with the identifier handed down to it. -/
def handouts (identifies : KeyId → Bool) (inherited : Option KeyId) :
    Item → List (KeyId × Option KeyId)
  | .null _ => []
  | .text _ _ => []
  | .list _ items => handoutsOfItems identifies inherited items
  | .map _ entries => handoutsOfEntries identifies inherited entries

def handoutsOfItems (identifies : KeyId → Bool) (inherited : Option KeyId) :
    List Item → List (KeyId × Option KeyId)
  | [] => []
  | item :: rest =>
      handouts identifies ((item.ownIdentifier? identifies).or inherited) item ++
        handoutsOfItems identifies inherited rest

def handoutsOfEntries (identifies : KeyId → Bool) (inherited : Option KeyId) :
    List (KeyId × Item) → List (KeyId × Option KeyId)
  | [] => []
  | (key, value) :: rest =>
      (key, inherited) ::
        (handouts identifies inherited value ++ handoutsOfEntries identifies inherited rest)

end

/-- A key does not name its own row. -/
def rowIdOf (handout : KeyId × Option KeyId) : Option KeyId :=
  handout.2.filter (· != handout.1)

mutual

theorem rowIds_eq_handouts (inherited : Option KeyId) : ∀ item : Item,
    item.rowIds identifies inherited = (item.handouts identifies inherited).map rowIdOf
  | .null _ => rfl
  | .text _ _ => rfl
  | .list _ items => rowIdsOfItems_eq_handouts inherited items
  | .map _ entries => rowIdsOfEntries_eq_handouts inherited entries

theorem rowIdsOfItems_eq_handouts (inherited : Option KeyId) : ∀ items : List Item,
    rowIdsOfItems identifies inherited items =
      (handoutsOfItems identifies inherited items).map rowIdOf
  | [] => rfl
  | item :: rest => by
      rw [rowIdsOfItems, handoutsOfItems, List.map_append, rowIds_eq_handouts _ item,
        rowIdsOfItems_eq_handouts inherited rest]

theorem rowIdsOfEntries_eq_handouts (inherited : Option KeyId) :
    ∀ entries : List (KeyId × Item), rowIdsOfEntries identifies inherited entries =
      (handoutsOfEntries identifies inherited entries).map rowIdOf
  | [] => rfl
  | (key, value) :: rest => by
      rw [rowIdsOfEntries, handoutsOfEntries, List.map_cons, List.map_append,
        rowIds_eq_handouts inherited value, rowIdsOfEntries_eq_handouts inherited rest]
      rfl

end

mutual

theorem keys_handouts (identifies : KeyId → Bool) (inherited : Option KeyId)
    (enclosing : List KeyId) : ∀ item : Item,
    (item.handouts identifies inherited).map (·.1) = (item.placements enclosing).map (·.1)
  | .null _ => rfl
  | .text _ _ => rfl
  | .list _ items => keys_handoutsOfItems identifies inherited enclosing items
  | .map id entries => keys_handoutsOfEntries identifies inherited enclosing id entries

theorem keys_handoutsOfItems (identifies : KeyId → Bool) (inherited : Option KeyId)
    (enclosing : List KeyId) :
    ∀ items : List Item, (handoutsOfItems identifies inherited items).map (·.1) =
      (placementsOfItems enclosing items).map (·.1)
  | [] => rfl
  | item :: rest => by
      rw [handoutsOfItems, placementsOfItems, List.map_append, List.map_append,
        keys_handouts identifies _ enclosing item,
        keys_handoutsOfItems identifies inherited enclosing rest]

theorem keys_handoutsOfEntries (identifies : KeyId → Bool) (inherited : Option KeyId)
    (enclosing : List KeyId) (owner : NodeId) :
    ∀ entries : List (KeyId × Item), (handoutsOfEntries identifies inherited entries).map (·.1) =
      (placementsOfEntries enclosing owner entries).map (·.1)
  | [] => rfl
  | (key, value) :: rest => by
      rw [handoutsOfEntries, placementsOfEntries, List.map_cons, List.map_cons, List.map_append,
        List.map_append, keys_handouts identifies inherited (key :: enclosing) value,
        keys_handoutsOfEntries identifies inherited enclosing owner rest]

end

theorem handoutsOfItems_eq_flatMap (inherited : Option KeyId) (items : List Item) :
    handoutsOfItems identifies inherited items = items.flatMap fun item =>
      item.handouts identifies ((item.ownIdentifier? identifies).or inherited) := by
  induction items with
  | nil => rfl
  | cons item rest ih => simp [handoutsOfItems, ih]

theorem handoutsOfEntries_eq_flatMap (inherited : Option KeyId) (entries : List (KeyId × Item)) :
    handoutsOfEntries identifies inherited entries = entries.flatMap fun entry =>
      (entry.1, inherited) :: entry.2.handouts identifies inherited := by
  induction entries with
  | nil => rfl
  | cons entry rest ih => simp [handoutsOfEntries, ih]

/-- The identifier `start` of a node has become the last one on the way to a node below it. -/
inductive HandsDown (identifies : KeyId → Bool) (outer : Item) (start : Option KeyId) :
    Option KeyId → Item → Prop
  | here : HandsDown identifies outer start start outer
  | item {inherited : Option KeyId} {id : NodeId} {items : List Item} {item : Item} :
      HandsDown identifies outer start inherited (.list id items) → item ∈ items →
      HandsDown identifies outer start ((item.ownIdentifier? identifies).or inherited) item
  | value {inherited : Option KeyId} {id : NodeId} {entries : List (KeyId × Item)} {key : KeyId}
      {value : Item} : HandsDown identifies outer start inherited (.map id entries) →
      (key, value) ∈ entries → HandsDown identifies outer start inherited value

variable {outer inner : Item} {start inherited : Option KeyId} {key : KeyId}

theorem HandsDown.mem_subtrees (path : outer.HandsDown identifies start inherited inner) :
    inner ∈ outer.subtrees := by
  have leads : ∃ keys, outer.LeadsTo keys inner := by
    induction path with
    | here => exact ⟨[], .here⟩
    | item _ member ih =>
        obtain ⟨keys, leads⟩ := ih
        exact ⟨keys, leads.item member⟩
    | value _ member ih =>
        obtain ⟨keys, leads⟩ := ih
        exact ⟨_, leads.value member⟩
  obtain ⟨keys, leads⟩ := leads
  exact leads.mem_subtrees

theorem HandsDown.handouts_subset (path : outer.HandsDown identifies start inherited inner) :
    inner.handouts identifies inherited ⊆ outer.handouts identifies start := by
  induction path with
  | here => exact List.Subset.refl _
  | item _ member ih =>
      refine List.Subset.trans (fun handout below => ?_) ih
      rw [handouts, handoutsOfItems_eq_flatMap]
      exact List.mem_flatMap.mpr ⟨_, member, below⟩
  | value _ member ih =>
      refine List.Subset.trans (fun handout below => ?_) ih
      rw [handouts, handoutsOfEntries_eq_flatMap]
      exact List.mem_flatMap.mpr ⟨_, member, List.mem_cons_of_mem _ below⟩

theorem exists_handsDown (identifies : KeyId → Bool) (start : Option KeyId)
    (below : inner ∈ outer.subtrees) :
    ∃ inherited, outer.HandsDown identifies start inherited inner := by
  obtain ⟨keys, path⟩ := exists_leadsTo below
  clear below
  induction path with
  | here => exact ⟨start, .here⟩
  | item _ member ih =>
      obtain ⟨inherited, path⟩ := ih
      exact ⟨_, path.item member⟩
  | value _ member ih =>
      obtain ⟨inherited, path⟩ := ih
      exact ⟨inherited, path.value member⟩

end Item

namespace Document

variable {doc : Document} {inner row other item value : Item} {inherited : Option KeyId}
  {key identifier : KeyId} {id : NodeId} {items : List Item} {entries : List (KeyId × Item)}

/-- Of all identified rows around a node, the row is the innermost. -/
def InnermostAround (doc : Document) (inner : Item) (identifier : KeyId) (row : Item) : Prop :=
  doc.Identifies identifier row ∧ inner ∈ row.subtrees ∧
    ∀ otherIdentifier other, doc.Identifies otherIdentifier other → inner ∈ other.subtrees →
      row ∈ other.subtrees

/-- What is handed down to a node: the identifier of the innermost identified row around it. -/
def Inherits (doc : Document) (inner : Item) : Option KeyId → Prop
  | some identifier => ∃ row, doc.InnermostAround inner identifier row
  | none => ∀ identifier row, doc.Identifies identifier row → inner ∉ row.subtrees

theorem inherits_root (doc : Document) : doc.Inherits doc.root none := by
  intro identifier row names around
  obtain ⟨isMapping, listId, items, within, listed⟩ := names.1
  have isRoot := mem_subtrees_antisymm (Item.self_mem_subtrees _) names.1.mem_subtrees around
  rw [← isRoot] at listed
  have isChild : doc.root ∈ (Item.list listId items).children := listed
  exact not_mem_subtrees_child within isChild within

/-- A node that is no identified row inherits what the node above it does. -/
theorem Inherits.child {parent : Item} (inherits : doc.Inherits parent inherited)
    (within : parent ∈ doc.root.subtrees) (isChild : inner ∈ parent.children)
    (unidentified : ∀ identifier, ¬ doc.Identifies identifier inner) :
    doc.Inherits inner inherited := by
  have aroundParent : ∀ {identifier row}, doc.Identifies identifier row →
      inner ∈ row.subtrees → parent ∈ row.subtrees := by
    intro identifier row names around
    rcases eq_or_parent_mem_subtrees within names.1.mem_subtrees isChild around with rfl | above
    · exact absurd names (unidentified identifier)
    · exact above
  cases inherited with
  | none => exact fun identifier row names around => inherits _ _ names (aroundParent names around)
  | some identifier =>
      obtain ⟨row, names, around, innermost⟩ := inherits
      refine ⟨row, names, Item.mem_subtrees_trans (child_mem_subtrees isChild) around, ?_⟩
      intro otherIdentifier other namesOther aroundInner
      exact innermost _ _ namesOther (aroundParent namesOther aroundInner)

/-- Entering an element of a list, the element's own identifier comes before the one handed down. -/
theorem inherits_element (inherits : doc.Inherits (.list id items) inherited)
    (within : Item.list id items ∈ doc.root.subtrees) (member : item ∈ items) :
    doc.Inherits item ((item.ownIdentifier? doc.isIdentifier).or inherited) := by
  have isChild : item ∈ (Item.list id items).children := member
  cases own : item.ownIdentifier? doc.isIdentifier with
  | some identifier =>
      have names := (identifies_iff_ownIdentifier? within member).mpr own
      exact ⟨item, names, Item.self_mem_subtrees item, fun _ _ _ around => around⟩
  | none =>
      refine inherits.child within isChild fun identifier names => ?_
      rw [(identifies_iff_ownIdentifier? within member).mp names] at own
      contradiction

/-- The value of an entry is no element of a list, so it is no row. -/
theorem inherits_value (inherits : doc.Inherits (.map id entries) inherited)
    (within : Item.map id entries ∈ doc.root.subtrees) (member : (key, value) ∈ entries) :
    doc.Inherits value inherited := by
  have isChild : value ∈ (Item.map id entries).children :=
    List.mem_map.mpr ⟨(key, value), member, rfl⟩
  refine inherits.child within isChild fun identifier names => ?_
  obtain ⟨_, listId, items, listWithin, listed⟩ := names.1
  have isElement : value ∈ (Item.list listId items).children := listed
  cases parent_unique within listWithin isChild isElement

theorem inherits_of_handsDown
    (path : doc.root.HandsDown doc.isIdentifier none inherited inner) :
    doc.Inherits inner inherited := by
  induction path with
  | here => exact doc.inherits_root
  | item path member ih => exact inherits_element ih path.mem_subtrees member
  | value path member ih => exact inherits_value ih path.mem_subtrees member

theorem Identifies.unique {first second : KeyId} (names : doc.Identifies first row)
    (again : doc.Identifies second row) : first = second :=
  Option.some.inj (names.2.symm.trans again.2)

/-- The row is the innermost one around the key in which an identifier is found. -/
structure NearestRow (doc : Document) (key identifier : KeyId) (row : Item) : Prop where
  names : doc.Identifies identifier row
  around : row.HasKey key
  innermost : ∀ otherIdentifier other, doc.Identifies otherIdentifier other → other.HasKey key →
    row ∈ other.subtrees

theorem NearestRow.identifier_unique {otherIdentifier : KeyId}
    (nearest : doc.NearestRow key identifier row)
    (again : doc.NearestRow key otherIdentifier other) : identifier = otherIdentifier := by
  have inOther := nearest.innermost _ _ again.names again.around
  have inRow := again.innermost _ _ nearest.names nearest.around
  have sameRow := mem_subtrees_antisymm nearest.names.1.mem_subtrees inRow inOther
  rw [← sameRow] at again
  exact nearest.names.unique again.names

/-- An identifier names itself in every row between the key and the row that it names. -/
theorem NearestRow.eq_of_identifies (nearest : doc.NearestRow key identifier row)
    (names : doc.Identifies key other) : identifier = key := by
  have between := nearest.innermost key other names names.hasKey
  obtain ⟨⟨_, value⟩, found, rfl⟩ := Option.map_eq_some_iff.mp names.2
  have foundWithin :=
    findTagged?_of_mem_subtrees names.1.mem_subtrees between found nearest.around
  exact nearest.names.unique ⟨nearest.names.1, congrArg (Option.map (·.1)) foundWithin⟩

end Document

namespace RowIndex

variable {doc : Document} {key identifier : KeyId} {row : Item} {inherited : Option KeyId}

theorem rowIds_inOrder (doc : Document) :
    ((doc.root.handouts doc.isIdentifier none).map fun handout =>
      (handout.1, Item.rowIdOf handout)).map (·.1) =
        (List.range' 0 doc.source.keys.length).map KeyId.mk := by
  rw [List.map_map]
  exact (Item.keys_handouts doc.isIdentifier none [] doc.root).trans doc.keys_placements_root

theorem rowIds_build (doc : Document) :
    (build doc).rowIds = (((doc.root.handouts doc.isIdentifier none).map fun handout =>
      (handout.1, Item.rowIdOf handout)).map (·.2)).toArray := by
  rw [build, Item.rowIds_eq_handouts, List.map_map]
  rfl

theorem rowIdentifier?_of_mem_handouts
    (handed : (key, inherited) ∈ doc.root.handouts doc.isIdentifier none) :
    (build doc).rowIdentifier? key = inherited.filter (· != key) := by
  have noted := (Document.note_at_number (rowIds_inOrder doc)).mp
    (List.mem_map.mpr ⟨_, handed, rfl⟩)
  rw [rowIdentifier?, rowIds_build, List.getElem?_toArray, noted]
  rfl

theorem rowIdentifier?_eq_none_of_not_hasKey (absent : ¬ doc.root.HasKey key) :
    (build doc).rowIdentifier? key = none := by
  rw [rowIdentifier?, rowIds_build, List.getElem?_toArray]
  cases noted : (((doc.root.handouts doc.isIdentifier none).map fun handout =>
      (handout.1, Item.rowIdOf handout)).map (·.2))[key.index]? with
  | none => rfl
  | some rowId =>
      have listed := (Document.note_at_number (rowIds_inOrder doc)).mpr noted
      obtain ⟨handout, handed, same⟩ := List.mem_map.mp listed
      have placed : key ∈ (doc.root.placements []).map (·.1) := by
        rw [← Item.keys_handouts doc.isIdentifier none]
        exact List.mem_map.mpr ⟨handout, handed, congrArg Prod.fst same⟩
      rw [← (doc.root.searchOrder_perm_placements []).mem_iff] at placed
      obtain ⟨⟨_, value⟩, met, rfl⟩ := List.mem_map.mp placed
      exact absurd ⟨value, Item.mem_searchOrder_iff.mp met⟩ absent

/-- Either a nearest row names the row of a key, or no identified row holds the key. -/
theorem rowIdentifier?_cases (doc : Document) (key : KeyId) :
    (∃ identifier row, doc.NearestRow key identifier row ∧
      (build doc).rowIdentifier? key = if identifier = key then none else some identifier) ∨
    ((∀ identifier row, doc.Identifies identifier row → ¬ row.HasKey key) ∧
      (build doc).rowIdentifier? key = none) := by
  by_cases present : doc.root.HasKey key
  · obtain ⟨value, mapping, within, listed⟩ := present
    obtain ⟨entries, shape, inEntries⟩ := Item.exists_map_of_mem_entries listed
    obtain ⟨inherited, path⟩ := Item.exists_handsDown doc.isIdentifier none within
    have handed : (key, inherited) ∈ mapping.handouts doc.isIdentifier inherited := by
      rw [shape, Item.handouts, Item.handoutsOfEntries_eq_flatMap]
      exact List.mem_flatMap.mpr ⟨_, inEntries, List.mem_cons_self⟩
    have result := rowIdentifier?_of_mem_handouts (path.handouts_subset handed)
    have inherits := Document.inherits_of_handsDown path
    have holds_iff : ∀ {identifier row}, doc.Identifies identifier row →
        (row.HasKey key ↔ mapping ∈ row.subtrees) :=
      fun names => Document.owner_mem_subtrees within listed names.1.mem_subtrees
    cases inherited with
    | none =>
        refine .inr ⟨fun identifier row names holds => ?_, result⟩
        exact inherits identifier row names ((holds_iff names).mp holds)
    | some identifier =>
        obtain ⟨row, names, around, innermost⟩ := inherits
        refine .inl ⟨identifier, row, ⟨names, (holds_iff names).mpr around, ?_⟩, ?_⟩
        · intro otherIdentifier other namesOther holds
          exact innermost _ _ namesOther ((holds_iff namesOther).mp holds)
        · rw [result]
          by_cases same : identifier = key <;> simp [same]
  · refine .inr ⟨fun identifier row names holds => ?_, rowIdentifier?_eq_none_of_not_hasKey present⟩
    obtain ⟨value, entry⟩ := holds
    exact present ⟨value, entry.mono names.1.mem_subtrees⟩

/-- The row of a key is named by the identifier of the innermost row around it in which one is found,
unless that is the key itself; without such a row it has no name. A key that identifies a row has none
either. -/
theorem rowIdentifier?_nearest (doc : Document) (key : KeyId) :
    (∀ identifier row, doc.NearestRow key identifier row →
      (build doc).rowIdentifier? key = if identifier = key then none else some identifier) ∧
    ((∃ identifier row, doc.NearestRow key identifier row) ↔
      ∃ identifier row, doc.Identifies identifier row ∧ row.HasKey key) ∧
    ((¬ ∃ identifier row, doc.Identifies identifier row ∧ row.HasKey key) →
      (build doc).rowIdentifier? key = none) ∧
    (∀ id, (build doc).identifierOf? id = some key → (build doc).rowIdentifier? key = none) := by
  refine ⟨?_, ⟨?_, ?_⟩, ?_, ?_⟩
  · intro identifier row nearest
    rcases rowIdentifier?_cases doc key with ⟨found, other, otherNearest, result⟩ | ⟨none, _⟩
    · rw [result, nearest.identifier_unique otherNearest]
    · exact absurd nearest.around (none _ _ nearest.names)
  · rintro ⟨identifier, row, nearest⟩
    exact ⟨identifier, row, nearest.names, nearest.around⟩
  · rintro ⟨identifier, row, names, holds⟩
    rcases rowIdentifier?_cases doc key with ⟨found, other, nearest, _⟩ | ⟨none, _⟩
    · exact ⟨found, other, nearest⟩
    · exact absurd holds (none _ _ names)
  · intro outside
    rcases rowIdentifier?_cases doc key with ⟨found, other, nearest, _⟩ | ⟨_, result⟩
    · exact absurd ⟨found, other, nearest.names, nearest.around⟩ outside
    · exact result
  · intro id identified
    obtain ⟨row, names, _⟩ := identifierOf?_eq_some_iff.mp identified
    rcases rowIdentifier?_cases doc key with ⟨found, other, nearest, result⟩ | ⟨none, _⟩
    · rw [result, if_pos (nearest.eq_of_identifies names)]
    · exact absurd names.hasKey (none _ _ names)

/-- A named row around a row without an identifier. -/
def namedThreat : Document := .ofNode (.map [
  (.ofName "threats", .list [.map [
    (.withTags "id" [Tag.rowIdentifier], .ofString "T1"),
    (.ofName "controls", .list [.map [(.ofName "control", .ofString "MFA")]])]])])

def threatRow : Item := .map ⟨2⟩ [
  (⟨1⟩, .text ⟨3⟩ (.ofString "T1")),
  (⟨2⟩, .list ⟨4⟩ [.map ⟨5⟩ [(⟨3⟩, .text ⟨6⟩ (.ofString "MFA"))]])]

theorem rowIdentifier?_of_nested_key :
    (namedThreat.Identifies ⟨1⟩ threatRow ∧ threatRow.HasKey ⟨3⟩) ∧
    (∃ identifier row, namedThreat.NearestRow ⟨3⟩ identifier row ∧
      (build namedThreat).rowIdentifier? ⟨3⟩ =
        if identifier = ⟨3⟩ then none else some identifier) ∧
    (build namedThreat).rowIdentifier? ⟨3⟩ = some ⟨1⟩ ∧
    (build namedThreat).identifierOf? ⟨2⟩ = some ⟨1⟩ ∧
    (build namedThreat).rowIdentifier? ⟨1⟩ = none := by
  have within : Item.list ⟨1⟩ [threatRow] ∈ namedThreat.root.subtrees :=
    List.mem_cons_of_mem _ List.mem_cons_self
  have own : threatRow.ownIdentifier? namedThreat.isIdentifier = some ⟨1⟩ := by decide +kernel
  have names := (Document.identifies_iff_ownIdentifier? within (List.mem_singleton_self _)).mpr own
  have holds : threatRow.HasKey ⟨3⟩ := by
    refine ⟨.text ⟨6⟩ (.ofString "MFA"), .map ⟨5⟩ _, ?_, List.mem_singleton_self _⟩
    simp [threatRow, Item.subtrees, Item.subtreesOfItems, Item.subtreesOfEntries]
  have identified : (build namedThreat).identifierOf? ⟨2⟩ = some ⟨1⟩ := by decide +kernel
  obtain ⟨named, nearest_iff, _, _⟩ := rowIdentifier?_nearest namedThreat ⟨3⟩
  obtain ⟨_, _, _, unnamed⟩ := rowIdentifier?_nearest namedThreat ⟨1⟩
  obtain ⟨identifier, row, nearest⟩ := nearest_iff.mpr ⟨_, _, names, holds⟩
  refine ⟨⟨names, holds⟩, ⟨identifier, row, nearest, named identifier row nearest⟩, by decide +kernel,
    identified, unnamed ⟨2⟩ identified⟩

end RowIndex

end ThreatModel
