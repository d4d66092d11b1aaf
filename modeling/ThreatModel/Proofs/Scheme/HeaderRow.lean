import Mathlib.Data.List.Forall2
import ThreatModel.Proofs.Properties
import ThreatModel.Proofs.Scheme.Bare

/-!
Taking the header off a table. A column is labelled with the first line of its header cell, and so are all
keys below the keys of the column. What becomes of a tree is told along paths of positions, so that nothing
at any depth is left open.
-/

namespace ThreatModel

namespace Chars

variable {text line after : List Char}

/-- The line stands first in a text: up to a line feed, without a carriage return before it, or else up
to the end. A text of no characters has no line. -/
inductive IsFirstLine : List Char → List Char → Prop
  | unended {text : List Char} (filled : text ≠ []) (unbroken : '\n' ∉ text) : IsFirstLine text text
  | fed {line after : List Char} (unbroken : '\n' ∉ line) (kept : line.getLast? ≠ some '\r') :
      IsFirstLine (line ++ '\n' :: after) line
  | returned {line after : List Char} (unbroken : '\n' ∉ line) :
      IsFirstLine (line ++ '\r' :: '\n' :: after) line

theorem takeLine_of_not_mem (unbroken : '\n' ∉ text) : takeLine text = (text, false, []) := by
  induction text with
  | nil => rfl
  | cons c rest ih =>
      rw [List.mem_cons, not_or] at unbroken
      rw [takeLine, if_neg (Ne.symm unbroken.1), ih unbroken.2]

theorem takeLine_append (unbroken : '\n' ∉ line) :
    takeLine (line ++ '\n' :: after) = (line, true, after) := by
  induction line with
  | nil => rfl
  | cons c rest ih =>
      rw [List.mem_cons, not_or] at unbroken
      rw [List.cons_append, takeLine, if_neg (Ne.symm unbroken.1), ih unbroken.2]

theorem head?_lines (filled : text ≠ []) : (lines text).head? =
    some (if (takeLine text).2.1 then dropReturn (takeLine text).1 else (takeLine text).1) := by
  obtain ⟨c, rest, rfl⟩ := List.exists_cons_of_ne_nil filled
  rfl

theorem head?_lines_append (unbroken : '\n' ∉ line) :
    (lines (line ++ '\n' :: after)).head? = some (dropReturn line) := by
  have filled : line ++ '\n' :: after ≠ [] := List.append_ne_nil_of_right_ne_nil _ (List.cons_ne_nil _ _)
  rw [head?_lines filled, takeLine_append unbroken, if_pos rfl]

theorem head?_lines_eq_some_iff : (lines text).head? = some line ↔ IsFirstLine text line := by
  constructor
  · intro first
    by_cases broken : '\n' ∈ text
    · obtain ⟨before, after, rfl, unbroken⟩ := List.eq_append_cons_of_mem broken
      rw [head?_lines_append unbroken, Option.some.injEq, dropReturn] at first
      split at first
      · next returned =>
          obtain ⟨kept, rfl⟩ := List.getLast?_eq_some_iff.mp returned
          rw [List.dropLast_concat] at first
          rw [← first, List.append_assoc]
          exact .returned fun inKept => unbroken (List.mem_append_left _ inKept)
      · next kept => exact first ▸ .fed unbroken kept
    · have filled : text ≠ [] := by
        rintro rfl
        cases first
      rw [head?_lines filled, takeLine_of_not_mem broken, Option.some.injEq] at first
      exact first ▸ .unended filled broken
  · rintro (⟨filled, unbroken⟩ | ⟨unbroken, kept⟩ | unbroken)
    · rw [head?_lines filled, takeLine_of_not_mem unbroken]
      rfl
    · rw [head?_lines_append unbroken, dropReturn, if_neg kept]
    · have longer : '\n' ∉ line ++ ['\r'] := by simp [unbroken]
      rw [List.append_cons, head?_lines_append longer, dropReturn, if_pos List.getLast?_concat,
        List.dropLast_concat]

theorem firstLine?_eq_some_iff {text label : String} : firstLine? text = some label ↔
    ∃ line, IsFirstLine text.toList line ∧ String.ofList (Unicode.trimChars line) = label := by
  simp only [firstLine?, Option.map_eq_some_iff, head?_lines_eq_some_iff]

end Chars

/-- The key with the label of its column. Nothing else about it has changed. -/
structure Key.LabelledAs (label : String) (before after : Key) : Prop where
  label : after.property? Property.columnName = some (.string label)
  name : after.name = before.name
  tags : after.tags = before.tags
  property? : ∀ name, name ≠ Property.columnName → after.property? name = before.property? name

namespace Node

/-- The node to which a path of positions leads. -/
def below? : List Nat → Node → Option Node
  | [], node => some node
  | position :: path, .list items => items[position]?.bind (below? path)
  | position :: path, .map entries => entries[position]?.bind fun entry => below? path entry.2
  | _ :: _, _ => none

theorem below?_mapParts (onText : Text → Text) (onKey : Key → Key) (path : List Nat) (node : Node) :
    (node.mapParts onText onKey).below? path = (node.below? path).map (mapParts onText onKey) := by
  induction path generalizing node with
  | nil => rfl
  | cons position path ih =>
      cases node with
      | null | text => rfl
      | list items =>
          rw [mapParts_list, below?, below?, List.getElem?_map]
          cases items[position]? with
          | none => rfl
          | some item => exact ih item
      | map entries =>
          rw [mapParts_map, below?, below?, List.getElem?_map]
          cases entries[position]? with
          | none => rfl
          | some entry => exact ih entry.2

/-- Nodes of one kind and length, with equal texts; the keys of mappings are related place by place. -/
inductive Alike (related : Key → Key → Prop) : Node → Node → Prop
  | null : Alike related .null .null
  | text (leaf : Text) : Alike related (.text leaf) (.text leaf)
  | list {items others : List Node} (length : others.length = items.length) :
      Alike related (.list items) (.list others)
  | map {entries others : Mapping}
      (keys : List.Forall₂ (fun entry other => related entry.1 other.1) entries others) :
      Alike related (.map entries) (.map others)

theorem alike_mapParts {related : Key → Key → Prop} {onKey : Key → Key}
    (keys : ∀ key, related key (onKey key)) (node : Node) :
    node.Alike related (node.mapParts id onKey) := by
  cases node with
  | null => exact .null
  | text leaf => exact .text leaf
  | list items =>
      rw [mapParts_list]
      exact .list (List.length_map _)
  | map entries =>
      rw [mapParts_map]
      refine .map (List.forall₂_map_right_iff.mpr ?_)
      exact List.forall₂_same.mpr fun entry _ => keys entry.1

/-- The keys at every depth have the label, and nothing else has changed. -/
def LabelledAs (label : String) (before after : Node) : Prop :=
  ∀ path, Option.Rel (Alike (Key.LabelledAs label)) (before.below? path) (after.below? path)

end Node

namespace PostProcessor

variable {header entries : Mapping} {rows : List Node} {label : String} {column : Nat}

theorem labelledAs_columnLabel (label : String) (key : Key) :
    key.LabelledAs label (columnLabel label key) where
  label := (Properties.get?_put ..).trans (if_pos rfl)
  name := rfl
  tags := rfl
  property? _ other := (Properties.get?_put ..).trans (if_neg other.symm)

theorem labelledAs_labelKeys (label : String) (node : Node) :
    node.LabelledAs label (labelKeys label node) := by
  intro path
  rw [labelKeys_eq_mapParts, Node.below?_mapParts]
  cases node.below? path with
  | none => exact .none
  | some found => exact .some (found.alike_mapParts (labelledAs_columnLabel label))

/-- The cell of the header at the column shows a text, and the label is the first line of it, without
white space around it. -/
def Labels (header : Mapping) (column : Nat) (label : String) : Prop :=
  ∃ key cell text line, header[column]? = some (key, cell) ∧ cell.rendered? = some text ∧
    Chars.IsFirstLine text.value.toList line ∧ String.ofList (Unicode.trimChars line) = label

/-- The labels of the columns; those beyond the header have none. -/
def columnLabels (header : Mapping) : List (Option String) :=
  header.map fun entry => headerLabel? entry.2

theorem labels_iff : Labels header column label ↔ (columnLabels header)[column]? = some (some label) := by
  rw [columnLabels, List.getElem?_map, Option.map_eq_some_iff]
  constructor
  · rintro ⟨key, cell, text, line, found, shown, first, same⟩
    refine ⟨(key, cell), found, ?_⟩
    rw [headerLabel?, shown, Option.bind_some, Chars.firstLine?_eq_some_iff]
    exact ⟨line, first, same⟩
  · rintro ⟨⟨key, cell⟩, found, labelled⟩
    obtain ⟨text, shown, first⟩ := Option.bind_eq_some_iff.mp labelled
    obtain ⟨line, first, same⟩ := Chars.firstLine?_eq_some_iff.mp first
    exact ⟨key, cell, text, line, found, shown, first, same⟩

/-- An entry in a column with the label. -/
def labelEntry (label : String) (entry : Key × Node) : Key × Node :=
  (columnLabel label entry.1, labelKeys label entry.2)

theorem getElem?_labelColumns (labels : List (Option String)) (entries : Mapping) (column : Nat) :
    (labelColumns labels entries)[column]? =
      entries[column]?.map (labels[column]?.join.elim id labelEntry) := by
  fun_induction labelColumns labels entries generalizing column with
  | case1 label labels key value rest ih =>
      cases column with
      | zero => rfl
      | succ column => exact ih column
  | case2 labels entry rest ih =>
      cases column with
      | zero => rfl
      | succ column => exact ih column
  | case3 labels entries notLabelled notUnlabelled =>
      -- One of the two lists has come to its end.
      cases entries with
      | nil => rfl
      | cons entry rest =>
          cases labels with
          | nil => exact Option.map_id'.symm
          | cons label? labels =>
              cases label? with
              | none => exact (notUnlabelled labels entry rest rfl rfl).elim
              | some label => exact (notLabelled label labels entry.1 entry.2 rest rfl rfl).elim

/-- What comes of the rows below a header. -/
structure HeaderRemoved (header : Mapping) (rows left : List Node) : Prop where
  length : left.length = rows.length
  others : ∀ (position : Nat) (row : Node), rows[position]? = some row → (∀ entries, row ≠ .map entries) →
    left[position]? = some row
  cells : ∀ (position : Nat) (entries : Mapping), rows[position]? = some (.map entries) →
    ∃ done : Mapping, left[position]? = some (.map done) ∧ done.length = entries.length ∧
      ∀ (column : Nat) (key : Key) (value : Node), entries[column]? = some (key, value) →
        ∃ newKey newValue, done[column]? = some (newKey, newValue) ∧
          (∀ label, Labels header column label →
            key.LabelledAs label newKey ∧ value.LabelledAs label newValue) ∧
          ((∀ label, ¬ Labels header column label) → newKey = key ∧ newValue = value)

theorem headerRemoved_labelRow (header : Mapping) (rows : List Node) :
    HeaderRemoved header rows (rows.map (labelRow (columnLabels header))) where
  length := List.length_map _
  others position row found notMapping := by
    rw [List.getElem?_map, found, Option.map_some]
    cases row with
    | null | text | list => rfl
    | map entries => exact absurd rfl (notMapping entries)
  cells position entries found := by
    have labelled : (rows.map (labelRow (columnLabels header)))[position]? =
        some (.map (labelColumns (columnLabels header) entries)) := by
      rw [List.getElem?_map, found]
      rfl
    have length := congrArg List.length (bare_labelColumns (columnLabels header) entries)
    rw [List.length_map, List.length_map] at length
    refine ⟨_, labelled, length, fun column key value listed => ?_⟩
    rw [getElem?_labelColumns, listed, Option.map_some]
    refine ⟨_, _, rfl, fun label labels => ?_, fun unlabelled => ?_⟩
    · rw [labels_iff.mp labels]
      exact ⟨labelledAs_columnLabel label key, labelledAs_labelKeys label value⟩
    · have none : (columnLabels header)[column]?.join = none := by
        refine Option.eq_none_iff_forall_ne_some.mpr fun label joined => unlabelled label ?_
        exact labels_iff.mpr (Option.join_eq_some_iff.mp joined)
      rw [none]
      exact ⟨rfl, rfl⟩

/-- Taking the header off a list whose first row is a mapping leaves the other rows in order. In those that
are mappings, each column whose header cell has a line is labelled with it at every depth; nothing else
changes. -/
theorem removes_header (config : Json) (header : Mapping) (rows : List Node) :
    ∃ left, removeHeaderRow.apply config (.list (.map header :: rows)) = .list left ∧
      HeaderRemoved header rows left :=
  ⟨_, rfl, headerRemoved_labelRow header rows⟩

example :
    let header := Node.map [(.ofName "a", .ofString " Asset \r\nname"), (.ofName "b", .null)]
    let owners (key : Key) := Node.list [.null, .map [(key, .ofString "Ops")]]
    let titled (name : String) := (Key.ofName name).setProperty Property.columnName (.string "Asset")
    removeHeaderRow.apply .null (.list [header, .ofString "remark",
      .map [(.ofName "x", owners (.ofName "y")), (.ofName "z", .null), (.ofName "beyond", .null)]]) =
    .list [.ofString "remark",
      .map [(titled "x", owners (titled "y")), (.ofName "z", .null), (.ofName "beyond", .null)]] := by cbv

end PostProcessor

end ThreatModel
