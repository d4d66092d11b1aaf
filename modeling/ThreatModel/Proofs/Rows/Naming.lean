import Mathlib.Data.List.Dedup
import Mathlib.Data.List.Flatten
import ThreatModel.Document.Rows
import ThreatModel.Proofs.Document.Nesting
import ThreatModel.Proofs.Document.SearchOrder
import ThreatModel.Proofs.Reference.Resolution

/-!
Which key names which row. The search for a row's identifier goes into the rows nested in it, so one key
may name several rows, all around each other. Every row finds its key; of the rows that share a key, the
key finds the innermost. The two look-ups are inverse exactly where no rows share a key.
-/

namespace ThreatModel

section LastWins

variable {items : List α} {position : α → Nat} {wanted : α → Bool} {item : α}

theorem eq_of_position_eq (sorted : items.Pairwise fun left right => position left < position right)
    {left right : α} (leftListed : left ∈ items) (rightListed : right ∈ items)
    (same : position left = position right) : left = right := by
  have distinct : (items.map position).Nodup := by
    rw [List.Nodup, List.pairwise_map]
    exact sorted.imp fun before => Nat.ne_of_lt before
  exact List.inj_on_of_nodup_map distinct leftListed rightListed same

theorem position_le_of_find?_reverse
    (sorted : items.Pairwise fun left right => position left < position right)
    (found : items.reverse.find? wanted = some item) {other : α} (listed : other ∈ items)
    (isWanted : wanted other = true) : position other ≤ position item := by
  obtain ⟨_, later, earlier, split, noneLater⟩ := List.find?_eq_some_iff_append.mp found
  have order : items = earlier.reverse ++ item :: later.reverse := by
    rw [← List.reverse_reverse items, split]
    simp
  rw [order, List.mem_append, List.mem_cons] at listed
  rcases listed with before | same | after
  · rw [order, List.pairwise_append] at sorted
    exact Nat.le_of_lt (sorted.2.2 other before item List.mem_cons_self)
  · exact Nat.le_of_eq (congrArg position same)
  · have refused := noneLater other (List.mem_reverse.mp after)
    rw [isWanted] at refused
    contradiction

/-- Where positions increase, the last hit is the one of the greatest position. -/
theorem find?_reverse_eq_some_iff
    (sorted : items.Pairwise fun left right => position left < position right) :
    items.reverse.find? wanted = some item ↔
      item ∈ items ∧ wanted item = true ∧
        ∀ other ∈ items, wanted other = true → position other ≤ position item := by
  constructor
  · intro found
    have listed := List.mem_reverse.mp (List.mem_of_find?_eq_some found)
    exact ⟨listed, List.find?_some found, fun other otherListed isWanted =>
      position_le_of_find?_reverse sorted found otherListed isWanted⟩
  · rintro ⟨listed, isWanted, greatest⟩
    cases found : items.reverse.find? wanted with
    | none =>
        exact absurd isWanted (List.find?_eq_none.mp found item (List.mem_reverse.mpr listed))
    | some last =>
        have lastListed := List.mem_reverse.mp (List.mem_of_find?_eq_some found)
        have upper := greatest last lastListed (List.find?_some found)
        have lower := position_le_of_find?_reverse sorted found listed isWanted
        rw [eq_of_position_eq sorted lastListed listed (Nat.le_antisymm upper lower)]

end LastWins

theorem length_eraseDups_eq_iff [BEq α] [LawfulBEq α] (items : List α) :
    items.eraseDups.length = items.length ↔ items.Nodup := by
  classical
  have sameMembers : items.eraseDups.Perm items.dedup :=
    (List.perm_ext_iff_of_nodup (nodup_eraseDups items) items.nodup_dedup).mpr fun item => by
      rw [List.mem_eraseDups, List.mem_dedup]
  rw [sameMembers.length_eq, ← List.dedup_eq_self]
  constructor
  · exact items.dedup_sublist.eq_of_length
  · exact congrArg List.length

namespace Item

variable {identifies : KeyId → Bool} {id : NodeId} {key : KeyId}

theorem namedRowsOfItems_eq_flatMap (items : List Item) :
    namedRowsOfItems identifies items = items.flatMap fun item =>
      ((item.ownIdentifier? identifies).map fun key => (item.id, key)).toList ++
        item.namedRows identifies := by
  induction items with
  | nil => rfl
  | cons item rest ih => simp [namedRowsOfItems, ih]

theorem namedRowsOfEntries_eq_flatMap (entries : List (KeyId × Item)) :
    namedRowsOfEntries identifies entries =
      entries.flatMap fun entry => entry.2.namedRows identifies := by
  induction entries with
  | nil => rfl
  | cons entry rest ih => simp [namedRowsOfEntries, ih]

/-- Rows are listed in document order. -/
theorem namedRows_sublist (identifies : KeyId → Bool) (item : Item) :
    ((item.namedRows identifies).map (·.1)).Sublist
      ((item.children.flatMap subtrees).map Item.id) := by
  induction item using Item.induction with
  | null id => exact .slnil
  | text id leaf => exact .slnil
  | list id items ih =>
      rw [namedRows, namedRowsOfItems_eq_flatMap, children, List.map_flatMap, List.map_flatMap]
      apply List.Sublist.flatMap_right
      intro item member
      rw [List.map_append, subtrees_eq_cons, List.map_cons]
      have own : (((item.ownIdentifier? identifies).map fun key => (item.id, key)).toList.map
          (·.1)).Sublist [item.id] := by
        cases item.ownIdentifier? identifies <;> simp
      exact own.append (ih item member)
  | map id entries ih =>
      rw [namedRows, namedRowsOfEntries_eq_flatMap, children, List.flatMap_map, List.map_flatMap,
        List.map_flatMap]
      apply List.Sublist.flatMap_right
      intro entry member
      rw [subtrees_eq_cons, List.map_cons]
      exact (ih entry member).cons _

theorem mem_namedRows_iff {item : Item} :
    (id, key) ∈ item.namedRows identifies ↔
      ∃ row listId items, Item.list listId items ∈ item.subtrees ∧ row ∈ items ∧ row.id = id ∧
        row.ownIdentifier? identifies = some key := by
  induction item using Item.induction with
  | null | text => simp [namedRows, subtrees]
  | list ownId items ih =>
      rw [namedRows, namedRowsOfItems_eq_flatMap, List.mem_flatMap]
      constructor
      · rintro ⟨item, member, named⟩
        rcases List.mem_append.mp named with own | below
        · rw [Option.mem_toList, Option.map_eq_some_iff] at own
          obtain ⟨found, isOwn, same⟩ := own
          cases same
          exact ⟨item, ownId, items, self_mem_subtrees _, member, rfl, isOwn⟩
        · obtain ⟨row, listId, rows, within, listed, named⟩ := (ih item member).mp below
          refine ⟨row, listId, rows, ?_, listed, named⟩
          exact mem_subtrees_iff_eq_or_below.mpr (.inr ⟨item, member, within⟩)
      · rintro ⟨row, listId, rows, within, listed, sameId, isOwn⟩
        rcases mem_subtrees_iff_eq_or_below.mp within with same | ⟨item, member, below⟩
        · cases same
          refine ⟨row, listed, List.mem_append_left _ ?_⟩
          rw [isOwn, ← sameId]
          exact List.mem_singleton_self _
        · exact ⟨item, member, List.mem_append_right _ ((ih item member).mpr
            ⟨row, listId, rows, below, listed, sameId, isOwn⟩)⟩
  | map ownId entries ih =>
      rw [namedRows, namedRowsOfEntries_eq_flatMap, List.mem_flatMap]
      constructor
      · rintro ⟨entry, member, below⟩
        obtain ⟨row, listId, rows, within, listed, named⟩ := (ih entry member).mp below
        refine ⟨row, listId, rows, ?_, listed, named⟩
        exact mem_subtrees_iff_eq_or_below.mpr
          (.inr ⟨entry.2, List.mem_map.mpr ⟨entry, member, rfl⟩, within⟩)
      · rintro ⟨row, listId, rows, within, listed, named⟩
        rcases mem_subtrees_iff_eq_or_below.mp within with same | ⟨item, member, below⟩
        · cases same
        · obtain ⟨entry, isEntry, rfl⟩ := List.mem_map.mp member
          exact ⟨entry, isEntry, (ih entry isEntry).mpr ⟨row, listId, rows, below, listed, named⟩⟩

end Item

namespace Document

/-- The node is a mapping among the elements of a list. -/
def IsRow (doc : Document) (row : Item) : Prop :=
  row.isMapping = true ∧ ∃ listId items, Item.list listId items ∈ doc.root.subtrees ∧ row ∈ items

/-- The tag that the index looks for. -/
abbrev isIdentifier (doc : Document) (key : KeyId) : Bool := (doc.key key).hasTag Tag.rowIdentifier

/-- The key is the first row identifier that a search of the row meets. -/
def Identifies (doc : Document) (key : KeyId) (row : Item) : Prop :=
  doc.IsRow row ∧ (doc.findTagged? row Tag.rowIdentifier).map (·.1) = some key

/-- No key identifies two rows. -/
def IdentifiersUnshared (doc : Document) : Prop :=
  ∀ key left right, doc.Identifies key left → doc.Identifies key right → left = right

/-- The nodes that the index gives an identifier. -/
def identifiedRows (doc : Document) : List NodeId :=
  (doc.nodes.toList.map Item.id).filter fun id => ((RowIndex.build doc).identifierOf? id).isSome

variable {doc : Document} {key : KeyId} {row other : Item} {id : NodeId}

theorem IsRow.mem_subtrees (isRow : doc.IsRow row) : row ∈ doc.root.subtrees := by
  obtain ⟨_, listId, items, within, listed⟩ := isRow
  have below : row ∈ (Item.list listId items).subtrees :=
    Item.mem_subtrees_iff_eq_or_below.mpr (.inr ⟨row, listed, Item.self_mem_subtrees row⟩)
  exact Item.mem_subtrees_trans below within

theorem Identifies.hasEntry (names : doc.Identifies key row) :
    row.HasEntry (key, doc.valueOf key) ∧ (doc.key key).hasTag Tag.rowIdentifier = true := by
  obtain ⟨isRow, found⟩ := names
  obtain ⟨⟨_, value⟩, hit, rfl⟩ := Option.map_eq_some_iff.mp found
  rw [findTagged?, Item.findKey?_eq_find?] at hit
  have holds := Item.mem_searchOrder_iff.mp (List.mem_of_find?_eq_some hit)
  have carries := List.find?_some hit
  refine ⟨?_, carries⟩
  rw [valueOf_of_hasEntry (holds.mono isRow.mem_subtrees)]
  exact holds

theorem Identifies.hasKey (names : doc.Identifies key row) : row.HasKey key :=
  ⟨_, names.hasEntry.1⟩

/-- Rows that share an identifier lie within each other, in the order of their numbers. -/
theorem Identifies.index_le_iff (names : doc.Identifies key row)
    (namesOther : doc.Identifies key other) :
    other.id.index ≤ row.id.index ↔ row ∈ other.subtrees := by
  constructor
  · exact mem_subtrees_of_hasKey namesOther.1.mem_subtrees names.1.mem_subtrees namesOther.hasKey
      names.hasKey
  · exact index_le_of_mem_subtrees namesOther.1.mem_subtrees

theorem identifies_iff_ownIdentifier? {listId : NodeId} {items : List Item}
    (within : Item.list listId items ∈ doc.root.subtrees) (listed : row ∈ items) :
    doc.Identifies key row ↔ row.ownIdentifier? doc.isIdentifier = some key := by
  rw [Item.ownIdentifier?]
  constructor
  · rintro ⟨⟨isMapping, _⟩, found⟩
    rw [if_pos isMapping]
    exact found
  · intro isOwn
    split at isOwn
    · next isMapping => exact ⟨⟨isMapping, listId, items, within, listed⟩, isOwn⟩
    · contradiction

theorem mem_named_iff :
    (id, key) ∈ (RowIndex.build doc).named ↔ ∃ row, doc.Identifies key row ∧ row.id = id := by
  rw [RowIndex.build, Item.mem_namedRows_iff]
  constructor
  · rintro ⟨row, listId, items, within, listed, sameId, isOwn⟩
    exact ⟨row, (identifies_iff_ownIdentifier? within listed).mpr isOwn, sameId⟩
  · rintro ⟨row, names, sameId⟩
    obtain ⟨_, listId, items, within, listed⟩ := names.1
    exact ⟨row, listId, items, within, listed, sameId,
      (identifies_iff_ownIdentifier? within listed).mp names⟩

theorem named_sorted (doc : Document) :
    (RowIndex.build doc).named.Pairwise fun left right => left.1.index < right.1.index := by
  have increasing : (doc.root.subtrees.map (·.id.index)).Pairwise (· < ·) := by
    rw [doc.numbered_root.indices]
    exact List.pairwise_lt_range'
  rw [Item.subtrees_eq_cons, List.map_cons] at increasing
  have listed : ((RowIndex.build doc).named.map (·.1.index)).Sublist
      ((doc.root.children.flatMap Item.subtrees).map (·.id.index)) := by
    have rows := (Item.namedRows_sublist doc.isIdentifier doc.root).map NodeId.index
    rw [List.map_map, List.map_map] at rows
    exact rows
  exact List.pairwise_map.mp ((List.pairwise_cons.mp increasing).2.sublist listed)

end Document

namespace RowIndex

variable {doc : Document} {key : KeyId} {id : NodeId}

theorem identifierOf?_eq_some_iff :
    (build doc).identifierOf? id = some key ↔ ∃ row, doc.Identifies key row ∧ row.id = id := by
  rw [identifierOf?, Option.map_eq_some_iff, ← Document.mem_named_iff]
  constructor
  · rintro ⟨⟨found, _⟩, isLast, rfl⟩
    obtain ⟨listed, sameId, _⟩ := (find?_reverse_eq_some_iff doc.named_sorted).mp isLast
    obtain rfl : found = id := by simpa using sameId
    exact listed
  · intro listed
    refine ⟨(id, key), (find?_reverse_eq_some_iff doc.named_sorted).mpr ⟨listed, ?_, ?_⟩, rfl⟩
    · exact beq_self_eq_true id
    · intro other _ sameId
      have same : other.1 = id := by simpa using sameId
      exact Nat.le_of_eq (congrArg NodeId.index same)

/-- Of the rows that a key identifies, the key finds the innermost. -/
theorem row?_eq_some_iff :
    (build doc).row? key = some id ↔ ∃ row, (doc.Identifies key row ∧ row.id = id) ∧
      ∀ other, doc.Identifies key other → row ∈ other.subtrees := by
  rw [row?, Option.map_eq_some_iff]
  constructor
  · rintro ⟨⟨_, found⟩, isLast, rfl⟩
    obtain ⟨listed, sameKey, greatest⟩ := (find?_reverse_eq_some_iff doc.named_sorted).mp isLast
    obtain rfl : found = key := by simpa using sameKey
    obtain ⟨row, names, sameId⟩ := Document.mem_named_iff.mp listed
    refine ⟨row, ⟨names, sameId⟩, ?_⟩
    intro other namesOther
    have before := greatest _ (Document.mem_named_iff.mpr ⟨other, namesOther, rfl⟩)
      (beq_self_eq_true found)
    rw [← sameId] at before
    exact (names.index_le_iff namesOther).mp before
  · rintro ⟨row, ⟨names, rfl⟩, innermost⟩
    refine ⟨(row.id, key), (find?_reverse_eq_some_iff doc.named_sorted).mpr ⟨?_, ?_, ?_⟩, rfl⟩
    · exact Document.mem_named_iff.mpr ⟨row, names, rfl⟩
    · exact beq_self_eq_true key
    · rintro ⟨otherId, otherKey⟩ listed sameKey
      obtain rfl : otherKey = key := by simpa using sameKey
      obtain ⟨other, namesOther, rfl⟩ := Document.mem_named_iff.mp listed
      exact (names.index_le_iff namesOther).mpr (innermost other namesOther)

theorem identifierOf?_of_row? (found : (build doc).row? key = some id) :
    (build doc).identifierOf? id = some key := by
  obtain ⟨row, names, _⟩ := row?_eq_some_iff.mp found
  exact identifierOf?_eq_some_iff.mpr ⟨row, names⟩

theorem inverse_iff_unshared :
    (∀ id key, (build doc).identifierOf? id = some key ↔ (build doc).row? key = some id) ↔
      doc.IdentifiersUnshared := by
  constructor
  · intro inverse key left right namesLeft namesRight
    have leftFound := (inverse left.id key).mp (identifierOf?_eq_some_iff.mpr ⟨left, namesLeft, rfl⟩)
    have rightFound :=
      (inverse right.id key).mp (identifierOf?_eq_some_iff.mpr ⟨right, namesRight, rfl⟩)
    have sameId : left.id = right.id := Option.some.inj (leftFound.symm.trans rightFound)
    exact Document.eq_of_index_eq namesLeft.1.mem_subtrees namesRight.1.mem_subtrees
      (congrArg NodeId.index sameId)
  · intro unshared id key
    refine ⟨?_, identifierOf?_of_row?⟩
    intro found
    obtain ⟨row, names, sameId⟩ := identifierOf?_eq_some_iff.mp found
    refine row?_eq_some_iff.mpr ⟨row, ⟨names, sameId⟩, ?_⟩
    intro other namesOther
    rw [unshared key other row namesOther names]
    exact Item.self_mem_subtrees row

theorem unshared_iff_nodup :
    doc.IdentifiersUnshared ↔ ((build doc).named.map (·.2)).Nodup := by
  rw [List.Nodup, List.pairwise_map]
  constructor
  · intro unshared
    apply doc.named_sorted.imp_of_mem
    rintro ⟨leftId, leftKey⟩ ⟨rightId, rightKey⟩ leftListed rightListed before sameKey
    obtain rfl : leftKey = rightKey := sameKey
    obtain ⟨left, namesLeft, rfl⟩ := Document.mem_named_iff.mp leftListed
    obtain ⟨right, namesRight, rfl⟩ := Document.mem_named_iff.mp rightListed
    rw [unshared leftKey left right namesLeft namesRight] at before
    exact absurd before (Nat.lt_irrefl _)
  · intro distinct key left right namesLeft namesRight
    have leftListed := Document.mem_named_iff.mpr ⟨left, namesLeft, rfl⟩
    have rightListed := Document.mem_named_iff.mpr ⟨right, namesRight, rfl⟩
    have keysDistinct : ((build doc).named.map (·.2)).Nodup := by
      rw [List.Nodup, List.pairwise_map]
      exact distinct
    have sameEntry := List.inj_on_of_nodup_map keysDistinct leftListed rightListed rfl
    exact Document.eq_of_index_eq namesLeft.1.mem_subtrees namesRight.1.mem_subtrees
      (congrArg (fun entry : NodeId × KeyId => entry.1.index) sameEntry)

theorem length_identifiedRows : doc.identifiedRows.length = (build doc).named.length := by
  have nodesDistinct : (doc.nodes.toList.map Item.id).Nodup := by
    rw [doc.nodes_eq]
    apply List.Nodup.of_map NodeId.index
    rw [List.map_map]
    exact doc.numbered_root.indices ▸ List.nodup_range'
  have namedDistinct : ((build doc).named.map (·.1)).Nodup := by
    rw [List.Nodup, List.pairwise_map]
    exact doc.named_sorted.imp fun before same => Nat.ne_of_lt before (congrArg NodeId.index same)
  have sameMembers : doc.identifiedRows.Perm ((build doc).named.map (·.1)) := by
    refine (List.perm_ext_iff_of_nodup (nodesDistinct.filter _) namedDistinct).mpr fun id => ?_
    rw [List.mem_filter, Option.isSome_iff_exists]
    constructor
    · rintro ⟨_, key, found⟩
      obtain ⟨row, named⟩ := identifierOf?_eq_some_iff.mp found
      exact List.mem_map.mpr ⟨(id, key), Document.mem_named_iff.mpr ⟨row, named⟩, rfl⟩
    · intro isNamed
      obtain ⟨⟨_, key⟩, listed, rfl⟩ := List.mem_map.mp isNamed
      obtain ⟨row, names, rfl⟩ := Document.mem_named_iff.mp listed
      refine ⟨?_, key, identifierOf?_eq_some_iff.mpr ⟨row, names, rfl⟩⟩
      rw [doc.nodes_eq]
      exact List.mem_map_of_mem names.1.mem_subtrees
  rw [sameMembers.length_eq, List.length_map]

/-- What a key finds as its row has the key as its identifier. The converse holds, and the index counts
the rows that have an identifier, exactly where no two rows share theirs. -/
theorem inverse_and_counted_iff_unshared (doc : Document) :
    (∀ id key, (build doc).row? key = some id → (build doc).identifierOf? id = some key) ∧
    ((∀ id key, (build doc).identifierOf? id = some key ↔ (build doc).row? key = some id) ↔
      doc.IdentifiersUnshared) ∧
    ((build doc).count = doc.identifiedRows.length ↔ doc.IdentifiersUnshared) := by
  refine ⟨fun _ _ => identifierOf?_of_row?, inverse_iff_unshared, ?_⟩
  rw [unshared_iff_nodup, ← length_eraseDups_eq_iff, length_identifiedRows, count,
    List.length_map]

/-- A row without an identifier of its own around a row that has one. -/
def sharedIdentifier : Document := .ofNode (.map [
  (.ofName "threats", .list [.map [
    (.ofName "controls", .list [.map [(.withTags "id" [Tag.rowIdentifier], .ofString "C1")]])]])])

theorem identifierOf?_without_row? :
    ¬ ∀ (doc : Document) (id : NodeId) (key : KeyId),
      (build doc).identifierOf? id = some key ↔ (build doc).row? key = some id := by
  intro inverse
  have outer : (build sharedIdentifier).identifierOf? ⟨2⟩ = some ⟨2⟩ := by decide +kernel
  have inner : (build sharedIdentifier).row? ⟨2⟩ = some ⟨4⟩ := by decide +kernel
  have back := (inverse sharedIdentifier ⟨2⟩ ⟨2⟩).mp outer
  rw [inner] at back
  cases back

end RowIndex

end ThreatModel
