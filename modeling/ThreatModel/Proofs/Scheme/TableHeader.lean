import Mathlib.Data.List.Forall2
import ThreatModel.Proofs.Document.Insertion
import ThreatModel.Proofs.Document.Parts
import ThreatModel.Scheme.Query

/-!
Tables with a header. The first of the selected rows names the columns, each later row that is a list
becomes a mapping from these names to its cells, and other rows are left out. Of columns with the same name
the last one that the row reaches counts, in the place of the first.
-/

namespace ThreatModel

/-- The elements of a list; other nodes are no rows of cells. -/
def Node.cells? : Node → Option (List Node)
  | .list cells => some cells
  | _ => none

namespace Query

variable {params : Params} {input cell : Node} {rows header cells : List Node} {names : List String}
  {name : String}

/-- The rows that a table query reads: those under a name, those at a place, or the input itself. -/
inductive Selects (params : Params) (input : Node) (rows : List Node) : Prop
  | named {name : String} {entries : Mapping} (asked : params.string? "name" = some name)
      (mapping : input = .map entries) (here : Mapping.get? entries name = some (.list rows))
  | placed {index : Nat} {items : List Node} (unnamed : params.string? "name" = none)
      (asked : params.nat? "index" = some index) (list : input = .list items)
      (here : items[index]? = some (.list rows))
  | whole (unnamed : params.string? "name" = none) (unplaced : params.nat? "index" = none)
      (here : input = .list rows)

theorem Selects.selectRows_eq (selects : Selects params input rows) :
    selectRows params input = .list rows := by
  cases selects with
  | named asked mapping here =>
      subst mapping
      simp only [selectRows, asked, here, Option.getD_some]
  | placed unnamed asked list here =>
      subst list
      simp only [selectRows, unnamed, asked, here, Option.getD_some]
  | whole unnamed unplaced here => simp only [selectRows, unnamed, unplaced, here]

/-- What the cells of a header call their columns: all text of a cell, without white space around it. -/
def columnNames (header : List Node) : List String :=
  header.map fun cell => Unicode.trim ("\n".intercalate (cell.leaves.map Text.value))

theorem headerName_eq (cell : Node) :
    headerName cell = Unicode.trim ("\n".intercalate (cell.leaves.map Text.value)) := by
  by_cases absent : cell = .null
  · subst absent
    rfl
  · rw [headerName, Node.rendered?_of_ne_null absent, Option.map_some, Option.getD_some, Node.value_joined]

theorem map_headerName (header : List Node) : header.map headerName = columnNames header :=
  List.map_congr_left fun cell _ => headerName_eq cell

/-- The cell stands in the last column of the name that the row reaches. -/
def LastUnder (names : List String) (cells : List Node) (name : String) (cell : Node) : Prop :=
  ∃ column : Nat, names[column]? = some name ∧ cells[column]? = some cell ∧
    ∀ later : Nat, column < later → later < cells.length → names[later]? ≠ some name

/-- The mapping is the row under the names: an entry without tags for each name of a column that the row
reaches, in the order of the names, with the cell of the last such column. -/
structure RowUnder (names : List String) (cells : List Node) (mapping : Mapping) : Prop where
  keys : mapping.map (·.1) = ((names.take cells.length).eraseDups).map Key.ofName
  values : ∀ name cell, (Key.ofName name, cell) ∈ mapping ↔ LastUnder names cells name cell

/-- The cells with the keys of their columns, as they are inserted. -/
def cellEntries (names : List String) (cells : List Node) : List (Key × Node) :=
  names.zipWith (fun name cell => (Key.ofName name, cell)) cells

theorem names_cellEntries (names : List String) (cells : List Node) :
    Mapping.names (cellEntries names cells) = names.take cells.length := by
  induction names generalizing cells with
  | nil => simp [cellEntries, Mapping.names]
  | cons name rest ih =>
      cases cells with
      | nil => rfl
      | cons cell others => exact congrArg (name :: ·) (ih others)

theorem getElem?_cellEntries_eq_some_iff {column : Nat} {entry : Key × Node} :
    (cellEntries names cells)[column]? = some entry ↔
      ∃ name cell, names[column]? = some name ∧ cells[column]? = some cell ∧ entry = (.ofName name, cell) := by
  rw [cellEntries, List.getElem?_zipWith]
  cases names[column]? <;> cases cells[column]? <;> simp [eq_comm]

theorem get?_cellEntries_eq_some_iff :
    Mapping.get? (Mapping.ofEntries (cellEntries names cells)) name = some cell ↔
      LastUnder names cells name cell := by
  simp only [Mapping.get?_ofEntries, Mapping.get?_reverse_eq_some_iff, getElem?_cellEntries_eq_some_iff]
  constructor
  · rintro ⟨column, key, ⟨_, _, named, inRow, same⟩, rfl, noneLater⟩
    cases same
    refine ⟨column, named, inRow, fun later behind reached again => ?_⟩
    exact noneLater later _ behind ⟨_, _, again, List.getElem?_eq_getElem reached, rfl⟩ rfl
  · rintro ⟨column, named, inRow, noneLater⟩
    refine ⟨column, .ofName name, ⟨name, cell, named, inRow, rfl⟩, rfl, ?_⟩
    rintro later _ behind ⟨other, _, again, reached, rfl⟩ rfl
    exact noneLater later behind (List.getElem?_eq_some_iff.mp reached).1 again

theorem ofName_name_of_mem {key : Key}
    (member : key ∈ (Mapping.ofEntries (cellEntries names cells)).map (·.1)) : Key.ofName key.name = key := by
  obtain ⟨entry, inserted, rfl⟩ := List.mem_map.mp (Mapping.mem_keys_of_ofEntries member)
  obtain ⟨column, here⟩ := List.mem_iff_getElem?.mp inserted
  obtain ⟨name, cell, _, _, rfl⟩ := getElem?_cellEntries_eq_some_iff.mp here
  rfl

theorem rowUnder_ofEntries (names : List String) (cells : List Node) :
    RowUnder names cells (Mapping.ofEntries (cellEntries names cells)) where
  keys := by
    rw [← names_cellEntries, ← Mapping.names_ofEntries, Mapping.names, List.map_map, List.map_congr_left]
    intro entry member
    exact (ofName_name_of_mem (List.mem_map_of_mem member)).symm
  values name cell := by
    rw [← get?_cellEntries_eq_some_iff, Mapping.get?_eq_some_iff_mem (Mapping.nodup_names_ofEntries _)]
    constructor
    · intro member
      exact ⟨.ofName name, rfl, member⟩
    · rintro ⟨key, rfl, member⟩
      rwa [ofName_name_of_mem (List.mem_map_of_mem member)]

theorem withHeader_cons (header : List Node) (rows : List Node) :
    withHeader (.list header :: rows) = .list ((rows.filterMap Node.cells?).map fun cells =>
      .map (Mapping.ofEntries (cellEntries (columnNames header) cells))) := by
  rw [withHeader, map_headerName, List.map_filterMap]
  refine congrArg Node.list (List.filterMap_congr fun row _ => ?_)
  cases row <;> rfl

/-- A table whose first selected row is a header comes to one mapping for each later row that is a list, in
their order: the row under the names of the columns. -/
theorem rows_under_header (asked : params.flag "header" = true)
    (selects : Selects params input (.list header :: rows)) :
    ∃ mappings : List Mapping, Query.table.apply params input = .list (mappings.map Node.map) ∧
      List.Forall₂ (RowUnder (columnNames header)) (rows.filterMap Node.cells?) mappings := by
  refine ⟨(rows.filterMap Node.cells?).map fun cells =>
    Mapping.ofEntries (cellEntries (columnNames header) cells), ?_, ?_⟩
  · rw [apply, applyTable, selects.selectRows_eq]
    simp only [asked, if_true, withHeader_cons, List.map_map]
    rfl
  · rw [List.forall₂_map_right_iff]
    exact List.forall₂_same.mpr fun cells _ => rowUnder_ofEntries (columnNames header) cells

/-- A header that names two columns alike and one not at all. -/
def repeatedHeader : List Node :=
  [.ofString "Store ", .null, .list [.ofString " Store"]]

/-- A short row, a remark, and a row that is longer than the header. -/
def raggedRows : List Node :=
  [.list [.ofString "DB"], .ofString "old", .list [.ofString "DB", .null, .ofString "Keys", .ofString "x"]]

theorem rows_under_repeatedHeader :
    ∃ mappings : List Mapping,
      Query.table.apply [("name", .string "assets"), ("header", .bool true)]
        (.map [(.ofName "assets", .list (.list repeatedHeader :: raggedRows))]) =
          .list (mappings.map Node.map) ∧
      List.Forall₂ (RowUnder ["Store", "", "Store"])
        [[.ofString "DB"], [.ofString "DB", .null, .ofString "Keys", .ofString "x"]] mappings := by
  have names : columnNames repeatedHeader = ["Store", "", "Store"] := by decide +kernel
  have here : Mapping.get? [(.ofName "assets", .list (.list repeatedHeader :: raggedRows))] "assets" =
      some (.list (.list repeatedHeader :: raggedRows)) := rfl
  rw [← names]
  exact rows_under_header rfl (.named rfl rfl here)

end Query

end ThreatModel
