import ThreatModel.Proofs.Document.Surroundings
import ThreatModel.Proofs.Reference.Row
import ThreatModel.Proofs.Rows.Naming

/-!
The order of a row's columns. The section that a row is searched for is the first data tag of its first
column, or else of the nearest key around the row that has one. As long as that section is the same, a
reference resolves within the row alike whatever the order of the columns; a column with a data tag of its
own decides otherwise by standing first.
-/

namespace ThreatModel

/-- The comparison that is told the keys by their numbers before the renumbering. -/
def Comparison.renumber (keys : Equiv.Perm Nat) (compare : Comparison) : Comparison :=
  fun tag value key text => compare tag value (key.renumber keys.symm) text

theorem KeyId.renumber_symm (keys : Equiv.Perm Nat) (id : KeyId) :
    (id.renumber keys).renumber keys.symm = id :=
  congrArg KeyId.mk (keys.symm_apply_apply id.index)

theorem ReferenceTag.accepts_renumber (tag : ReferenceTag) (keys : Equiv.Perm Nat)
    (custom : Option Comparison) (value : String) (key : KeyId) (text : String) :
    tag.accepts (custom.map (Comparison.renumber keys)) value (key.renumber keys) text =
      tag.accepts custom value key text := by
  cases custom with
  | none => rfl
  | some compare =>
      simp only [accepts, Option.map_some, Comparison.renumber, KeyId.renumber_symm]

namespace Surroundings

/-- The number of the element. -/
def elementId (place : Surroundings) : NodeId := ⟨place.nodesBefore⟩

/-- The element with its numbers. -/
def numbered (place : Surroundings) (element : Node) : Item :=
  element.number place.nodesBefore place.keysBefore.length

/-- The section that a row of these columns is searched for: by the first data tag of the first column,
or else of the nearest key around the row that has one. -/
def sectionTag? (place : Surroundings) (columns : Mapping) : Option String :=
  columns.head?.bind fun column => column.1.dataTags.head?.or place.dataTag?

theorem sectionTag?_of_mem_untagged (place : Surroundings) {columns : Mapping} {column : Key × Node}
    (listed : column ∈ columns) (untagged : ∀ column ∈ columns, column.1.dataTags = []) :
    place.sectionTag? columns = place.dataTag? := by
  cases columns with
  | nil => cases listed
  | cons first rest =>
      rw [sectionTag?, List.head?_cons, Option.bind_some, untagged first List.mem_cons_self]
      rfl

/-- Where no column has a data tag, every order gives a row the section around it. -/
theorem sectionTag?_of_perm (place : Surroundings) {columns reordered : Mapping}
    (permuted : columns.Perm reordered) (untagged : ∀ column ∈ columns, column.1.dataTags = []) :
    place.sectionTag? reordered = place.sectionTag? columns := by
  cases columns with
  | nil => rw [permuted.nil_eq]
  | cons first rest =>
      have listed : first ∈ first :: rest := List.mem_cons_self
      rw [place.sectionTag?_of_mem_untagged listed untagged]
      exact place.sectionTag?_of_mem_untagged (permuted.subset listed) fun column member =>
        untagged column (permuted.mem_iff.mpr member)

end Surroundings

namespace Document

/-- The element of a list is found in the document at this place. -/
def HasElement (doc : Document) (place : Surroundings) (element : Node) : Prop :=
  doc.contentOf doc.root = place.fill element

variable {doc other : Document} {place : Surroundings} {element : Node} {columns : Mapping}

theorem HasElement.leadsTo (holds : doc.HasElement place element) :
    doc.root.LeadsTo (place.enclosing 0) (place.numbered element) := by
  have path := place.leadsTo_number_fill element 0 0
  rw [← holds, number_contentOf_root, Nat.zero_add, Nat.zero_add] at path
  exact path

theorem HasElement.node? (holds : doc.HasElement place element) :
    doc.node? place.elementId = some (place.numbered element) :=
  node?_eq_some_iff.mpr ⟨holds.leadsTo.mem_subtrees, Node.id_number _ _ _⟩

theorem HasElement.key (holds : doc.HasElement place element) (number : Nat) :
    doc.key ⟨number⟩ =
      (place.keysBefore ++ (element.keys ++ place.keysAfter))[number]?.getD default := by
  rw [← place.keys_fill, ← holds, keys_contentOf_root, Array.getElem?_toList]
  rfl

theorem HasElement.rowDataTag? (holds : doc.HasElement place (.map columns)) :
    doc.rowDataTag? (place.numbered (.map columns)) = place.sectionTag? columns := by
  have path := holds.leadsTo
  cases columns with
  | nil => rfl
  | cons column rest =>
      have first : doc.key ⟨place.keysBefore.length⟩ = column.1 := by
        rw [holds.key, List.getElem?_append_right (Nat.le_refl _), Nat.sub_self]
        rfl
      have around : ((place.enclosing 0).findSome? fun id => (doc.key id).dataTags.head?) =
          place.dataTag? := by
        refine place.findSome?_enclosing fun offset key found => ?_
        have inside := (List.getElem?_eq_some_iff.mp found).1
        rw [Nat.zero_add, holds.key, List.getElem?_append_left inside, found]
        rfl
      have placed := place_of_leadsTo path List.mem_cons_self
      show doc.dataTag? ⟨place.keysBefore.length⟩ = column.1.dataTags.head?.or place.dataTag?
      rw [dataTag?, ancestry, placed, List.findSome?_cons, first, around]
      cases column.1.dataTags.head? <;> rfl

/-- Every row of a document is a mapping at some place. -/
theorem IsRow.exists_hasElement {row : Item} (isRow : doc.IsRow row) :
    ∃ (place : Surroundings) (columns : Mapping),
      doc.HasElement place (.map columns) ∧ row = place.numbered (.map columns) := by
  obtain ⟨isMapping, listId, items, within, listed⟩ := isRow
  rw [← doc.number_contentOf_root] at within
  obtain ⟨place, node, filled, same⟩ := Node.exists_surroundings within listed
  rw [Nat.zero_add, Nat.zero_add] at same
  subst same
  cases node with
  | map columns => exact ⟨place, columns, filled, rfl⟩
  | null | text | list => cases isMapping

/-- Under its new numbers, the mapping `row` of `doc` is the mapping `otherRow` of `other` with its
entries in another order, and every key of `doc` is the key of the new number in `other`. -/
structure Reorders (doc other : Document) (row otherRow : Item) (nodes keys : Equiv.Perm Nat) :
    Prop where
  mapping : row.isMapping = true
  otherMapping : otherRow.isMapping = true
  entries : (Item.renumberEntries nodes keys row.entries).Perm otherRow.entries
  sameKeys : ∀ id, other.key (id.renumber keys) = doc.key id

theorem exists_reorders {reordered : Mapping} (permuted : columns.Perm reordered)
    (holds : doc.HasElement place (.map columns))
    (otherHolds : other.HasElement place (.map reordered)) :
    ∃ nodes keys : Equiv.Perm Nat, doc.Reorders other (place.numbered (.map columns))
      (place.numbered (.map reordered)) nodes keys := by
  obtain ⟨nodes, keys, renumbers⟩ :=
    Node.exists_renumbers permuted (place.nodesBefore + 1) place.keysBefore.length
  refine ⟨nodes, keys, rfl, rfl, renumbers.entries, fun id => ?_⟩
  have same := renumbers.sameKeys place.keysBefore place.keysAfter rfl id.index
  rw [KeyId.renumber, otherHolds.key, Node.keys, same]
  exact (holds.key id.index).symm

variable {row otherRow : Item} {nodes keys : Equiv.Perm Nat}

theorem Reorders.searchOrder (reorders : doc.Reorders other row otherRow nodes keys) :
    (row.searchOrder.map (Prod.map (KeyId.renumber keys) (Item.renumber nodes keys))).Perm
      otherRow.searchOrder := by
  obtain ⟨mapping, otherMapping, permuted, _⟩ := reorders
  rw [← Item.searchOrder_renumber]
  cases row with
  | null | text | list => cases mapping
  | map id entries =>
      cases otherRow with
      | null | text | list => cases otherMapping
      | map otherId otherEntries =>
          -- The entries of the row come first, then the search of each value, in the entries' order.
          rw [Item.renumber, Item.searchOrder, Item.searchOrder,
            Item.searchOrderOfValues_eq_flatMap, Item.searchOrderOfValues_eq_flatMap]
          exact permuted.append (permuted.flatMap_right _)

theorem Reorders.resolvesIn (reorders : doc.Reorders other row otherRow nodes keys)
    (custom : Option Comparison) (value : String) (tag : ReferenceTag) :
    other.resolvesIn otherRow (custom.map (Comparison.renumber keys)) value tag =
      doc.resolvesIn row custom value tag := by
  simp only [Document.resolvesIn, findAllTagged, Item.findKeys_eq_filter, List.any_filter]
  rw [← reorders.searchOrder.any_eq, List.any_map]
  refine List.any_congr rfl fun entry => ?_
  have sameTexts : tag.accepts (custom.map (Comparison.renumber keys)) value
      (entry.1.renumber keys) = tag.accepts custom value entry.1 :=
    funext (tag.accepts_renumber keys custom value entry.1)
  simp only [Function.comp_apply, Prod.map_fst, Prod.map_snd, reorders.sameKeys,
    Item.texts_renumber, sameTexts]

theorem Reorders.rowReference? (reorders : doc.Reorders other row otherRow nodes keys)
    (sameSection : other.rowDataTag? otherRow = doc.rowDataTag? row) (family : String) (key : Key)
    (value : String) (custom : Option Comparison) (onlyCustom : Bool) :
    other.rowReference? otherRow family key value (custom.map (Comparison.renumber keys))
        onlyCustom =
      doc.rowReference? row family key value custom onlyCustom := by
  have sameTest : other.resolvesIn otherRow (custom.map (Comparison.renumber keys)) value =
      doc.resolvesIn row custom value := funext (reorders.resolvesIn custom value)
  rw [Document.rowReference?, sameTest, sameSection, Document.rowReference?]

/-- Two documents that differ in the order of one row's columns number their keys alike but for a
permutation. A reference resolves within the row in the one as in the other, unless the new order gives
the row another section. -/
theorem rowReference?_of_reordered {reordered : Mapping}
    (holds : doc.HasElement place (.map columns)) (otherHolds : other.HasElement place (.map reordered))
    (permuted : columns.Perm reordered) :
    doc.node? place.elementId = some (place.numbered (.map columns)) ∧
    other.node? place.elementId = some (place.numbered (.map reordered)) ∧
    doc.rowDataTag? (place.numbered (.map columns)) = place.sectionTag? columns ∧
    other.rowDataTag? (place.numbered (.map reordered)) = place.sectionTag? reordered ∧
    ∃ nodes keys, doc.Reorders other (place.numbered (.map columns)) (place.numbered (.map reordered))
        nodes keys ∧
      (place.sectionTag? reordered = place.sectionTag? columns →
        ∀ (family : String) (key : Key) (value : String) (custom : Option Comparison)
          (onlyCustom : Bool),
          other.rowReference? (place.numbered (.map reordered)) family key value
              (custom.map (Comparison.renumber keys)) onlyCustom =
            doc.rowReference? (place.numbered (.map columns)) family key value custom onlyCustom) := by
  obtain ⟨nodes, keys, reorders⟩ := exists_reorders permuted holds otherHolds
  refine ⟨holds.node?, otherHolds.node?, holds.rowDataTag?, otherHolds.rowDataTag?, nodes, keys,
    reorders, fun sameSection => ?_⟩
  rw [← otherHolds.rowDataTag?, ← holds.rowDataTag?] at sameSection
  exact reorders.rowReference? sameSection

/-- A model of one asset with these columns. -/
def oneAsset (columns : Mapping) : Node := .map [
  (.ofName "title", .ofString "Model"),
  (.withTags "assets" ["assets-data"], .list [.map columns])]

def inOneAsset : Surroundings :=
  .value [(.ofName "title", .ofString "Model")] (.withTags "assets" ["assets-data"]) (.element [] []) []

theorem hasElement_oneAsset (columns : Mapping) :
    (Document.ofNode (oneAsset columns)).HasElement inOneAsset (.map columns) :=
  contentOf_root _

def assetName : Key × Node := (.withTags "name" ["asset-name"], .ofString "DB")

def assetControls : Key × Node :=
  (.withTags "controls" ["controls-data"], .list [.map [(.ofName "control", .ofString "MFA")]])

def assetKind : Key × Node := (.ofName "kind", .ofString "store")

theorem rowReference?_of_swapped :
    (Document.ofNode (oneAsset [assetName, assetKind])).HasElement inOneAsset
      (.map [assetName, assetKind]) ∧
    (Document.ofNode (oneAsset [assetKind, assetName])).HasElement inOneAsset
      (.map [assetKind, assetName]) ∧
    [assetName, assetKind].Perm [assetKind, assetName] ∧
    (Document.ofNode (oneAsset [assetKind, assetName])).rowReference?
      (inOneAsset.numbered (.map [assetKind, assetName])) "ref" assetReference "DB" none false =
        some "ref/assets-data/asset-name" := by
  have holds := hasElement_oneAsset [assetName, assetKind]
  have otherHolds := hasElement_oneAsset [assetKind, assetName]
  have permuted : [assetName, assetKind].Perm [assetKind, assetName] := .swap ..
  have sameSection := inOneAsset.sectionTag?_of_perm permuted (by decide)
  have nameFirst : (Document.ofNode (oneAsset [assetName, assetKind])).rowReference?
      (inOneAsset.numbered (.map [assetName, assetKind])) "ref" assetReference "DB" none false =
        some "ref/assets-data/asset-name" := by decide +kernel
  obtain ⟨_, _, _, _, _, _, _, agree⟩ := rowReference?_of_reordered holds otherHolds permuted
  exact ⟨holds, otherHolds, permuted,
    (agree sameSection "ref" assetReference "DB" none false).trans nameFirst⟩

/-- With the controls first, a row of the assets is one of the controls. -/
theorem rowReference?_depends_on_first_column :
    ¬ ∀ (doc other : Document) (place : Surroundings) (columns reordered : Mapping),
      doc.HasElement place (.map columns) → other.HasElement place (.map reordered) →
      columns.Perm reordered →
      ∀ (family : String) (key : Key) (value : String) (onlyCustom : Bool),
        other.rowReference? (place.numbered (.map reordered)) family key value none onlyCustom =
          doc.rowReference? (place.numbered (.map columns)) family key value none onlyCustom := by
  intro agree
  have answers := agree _ _ _ _ _ (hasElement_oneAsset [assetName, assetControls])
    (hasElement_oneAsset [assetControls, assetName]) (.swap ..) "ref" assetReference "DB" false
  have nameFirst : (Document.ofNode (oneAsset [assetName, assetControls])).rowReference?
      (inOneAsset.numbered (.map [assetName, assetControls])) "ref" assetReference "DB" none false =
        some "ref/assets-data/asset-name" := by decide +kernel
  have controlsFirst : (Document.ofNode (oneAsset [assetControls, assetName])).rowReference?
      (inOneAsset.numbered (.map [assetControls, assetName])) "ref" assetReference "DB" none false =
        none := by decide +kernel
  rw [nameFirst, controlsFirst] at answers
  cases answers

end Document

end ThreatModel
