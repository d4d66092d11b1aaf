import Mathlib.Data.List.Forall2
import ThreatModel.Proofs.Properties
import ThreatModel.Proofs.Scheme.Bare

/-!
What post-processors leave of a tree. They take rows out, and of the rows that stay they change texts and
the labels of columns, at any depth, but neither kinds nor lengths nor keys. A chain of them does no more
than one of them, and only two of them take rows out.
-/

namespace ThreatModel

/-- The key without the label of its column. -/
def Key.unlabelled (key : Key) : Key :=
  { key with properties := key.properties.keep fun name _ => name != Property.columnName }

namespace Node

/-- Kinds, lengths and keys at every depth, without the texts and the labels of columns. -/
def shape (node : Node) : Node := node.mapParts (fun _ => .ofString "") Key.unlabelled

def shapeEntry (entry : Key × Node) : Key × Node := (entry.1.unlabelled, entry.2.shape)

def SameShape (left right : Node) : Prop := left.shape = right.shape

instance : Std.Refl SameShape := ⟨fun _ => rfl⟩

instance : IsTrans Node SameShape := ⟨fun _ _ _ first second => Eq.trans first second⟩

@[simp] theorem shape_null : Node.null.shape = .null := rfl

@[simp] theorem shape_text (leaf : Text) : (Node.text leaf).shape = .text (.ofString "") := rfl

@[simp] theorem shape_list (items : List Node) :
    (Node.list items).shape = .list (items.map shape) := mapParts_list items

@[simp] theorem shape_map (entries : List (Key × Node)) :
    (Node.map entries).shape = .map (entries.map shapeEntry) := mapParts_map entries

/-- Any change of the texts is without effect on the shape, and so is one of keys that spares all but
their labels. -/
theorem shape_mapParts {onText : Text → Text} {onKey : Key → Key} (node : Node)
    (keys : ∀ key, (onKey key).unlabelled = key.unlabelled) :
    (node.mapParts onText onKey).shape = node.shape := by
  have sameKeys : Key.unlabelled ∘ onKey = Key.unlabelled := funext keys
  rw [shape, shape, mapParts_mapParts, sameKeys]
  rfl

/-- What is left of a list is some of its rows, in their order; of any other node it is the whole. All
that is left has the shape it had. -/
def LeavesRows (before after : Node) : Prop :=
  match before with
  | .list rows => ∃ left, after = .list left ∧ List.SublistForall₂ SameShape left rows
  | before => after.SameShape before

theorem sublistForall₂_sameShape {left rows : List Node}
    (shapes : (left.map shape).Sublist (rows.map shape)) :
    List.SublistForall₂ SameShape left rows := by
  have mapped : List.SublistForall₂ Eq (left.map shape) (rows.map shape) := shapes.sublistForall₂
  rwa [List.sublistForall₂_map_left_iff, List.sublistForall₂_map_right_iff] at mapped

theorem LeavesRows.of_sameShape {before after : Node} (same : after.SameShape before) :
    before.LeavesRows after := by
  cases before with
  | null | text | map => exact same
  | list rows =>
      cases after with
      | null | text | map => simp [SameShape] at same
      | list left =>
          have shapes : left.map shape = rows.map shape := by simpa [SameShape] using same
          exact ⟨left, rfl, sublistForall₂_sameShape (shapes ▸ List.Sublist.refl _)⟩

theorem LeavesRows.trans {before middle after : Node} (first : before.LeavesRows middle)
    (second : middle.LeavesRows after) : before.LeavesRows after := by
  cases before with
  | list rows =>
      obtain ⟨left, rfl, early⟩ := first
      obtain ⟨last, rfl, late⟩ := second
      exact ⟨last, rfl, IsTrans.trans _ _ _ late early⟩
  | null | text | map =>
      cases middle with
      | list => simp [LeavesRows, SameShape] at first
      | null | text | map => exact Eq.trans second first

end Node

namespace Mapping

open Node (shapeEntry)

theorem shape_replace {entries : Mapping} {name : String} {kept value : Node}
    (found : get? entries name = some kept) (same : value.SameShape kept) :
    (replace entries name value).map shapeEntry = entries.map shapeEntry := by
  induction entries with
  | nil => rfl
  | cons first rest ih =>
      rw [get?, find?, List.find?_cons] at found
      rw [replace]
      split
      · next named =>
          rw [beq_iff_eq.mpr named] at found
          have here : first.2 = kept := by simpa using found
          rw [List.map_cons, List.map_cons, shapeEntry, shapeEntry, here, same]
      · next named =>
          rw [beq_eq_false_iff_ne.mpr named] at found
          rw [List.map_cons, List.map_cons, ih found]

end Mapping

namespace PostProcessor

open Node (shapeEntry)

/-- The post-processor may take rows out. -/
def dropsRows : PostProcessor → Bool
  | .removeEmptyRows | .removeHeaderRow => true
  | .inheritRowAbove | .valueReplace | .stripWhitespace => false

@[simp] theorem unlabelled_columnLabel (label : String) (key : Key) :
    (columnLabel label key).unlabelled = key.unlabelled := by
  rw [columnLabel, Key.unlabelled, Key.unlabelled, Key.setProperty,
    Properties.keep_put _ _ fun _ => bne_self_eq_false _]

@[simp] theorem shape_mapTexts (f : String → String) (node : Node) :
    (mapTexts f node).shape = node.shape := by
  have keys : ∀ key : Key, (id key).unlabelled = key.unlabelled := fun _ => rfl
  rw [mapTexts_eq_mapParts, node.shape_mapParts keys]

@[simp] theorem shape_labelKeys (label : String) (node : Node) :
    (labelKeys label node).shape = node.shape := by
  rw [labelKeys_eq_mapParts, node.shape_mapParts (unlabelled_columnLabel label)]

theorem shape_labelColumns (labels : List (Option String)) (entries : List (Key × Node)) :
    (labelColumns labels entries).map shapeEntry = entries.map shapeEntry := by
  fun_induction labelColumns labels entries with
  | case1 label labels key value rest ih => simp [shapeEntry, ih]
  | case2 labels entry rest ih => rw [List.map_cons, List.map_cons, ih]
  | case3 => rfl

@[simp] theorem shape_labelRow (labels : List (Option String)) (row : Node) :
    (labelRow labels row).shape = row.shape := by
  cases row with
  | null | text | list => rfl
  | map entries => rw [labelRow, Node.shape_map, shape_labelColumns, Node.shape_map]

theorem shape_dropHeader (rows : List Node) :
    (dropHeader rows).map Node.shape = rows.tail.map Node.shape := by
  fun_cases dropHeader rows with
  | case1 => rfl
  | case2 header rows => simp
  | case3 => rfl

theorem shape_replaceCell {name : String} {cell : Text} {row : Node}
    (found : cellText? name row = some cell) (value : Text) :
    (replaceCell name value row).shape = row.shape := by
  cases row with
  | null | text | list => rfl
  | map entries =>
      obtain ⟨kept, held, text⟩ := Option.bind_eq_some_iff.mp found
      have same : (Node.text value).SameShape kept := by
        cases kept with
        | text => rfl
        | null | list | map => cases text
      rw [replaceCell, Node.shape_map, Mapping.shape_replace held same, Node.shape_map]

/-- Only cells that hold a text are filled, and they are filled with a text. -/
theorem shape_fillDown (name : String) (above : Option Text) (rows : List Node) :
    (fillDown name above rows).map Node.shape = rows.map Node.shape := by
  fun_induction fillDown name above rows with
  | case1 => rfl
  | case2 above row rest cell found blank ih =>
      cases above with
      | none => rw [List.map_cons, List.map_cons, ih]
      | some value => rw [List.map_cons, List.map_cons, ih, shape_replaceCell found]
  | case3 above row rest cell found blank ih => rw [List.map_cons, List.map_cons, ih]
  | case4 above row rest absent ih => rw [List.map_cons, List.map_cons, ih]

theorem shape_fillDowns (names : List String) (rows : List Node) :
    (names.foldl (fun rows name => fillDown name none rows) rows).map Node.shape =
      rows.map Node.shape := by
  induction names generalizing rows with
  | nil => rfl
  | cons name rest ih => rw [List.foldl_cons, ih, shape_fillDown]

theorem sameShape_apply {processor : PostProcessor} (keeps : processor.dropsRows = false)
    (config : Json) (output : Node) : (processor.apply config output).SameShape output := by
  cases processor with
  | removeEmptyRows | removeHeaderRow => cases keeps
  | inheritRowAbove =>
      cases output with
      | null | text | map => rfl
      | list rows =>
          rw [Node.SameShape, apply, onRows, Node.shape_list, shape_fillDowns, Node.shape_list]
  | valueReplace =>
      rw [apply]
      split
      · exact shape_mapTexts _ output
      · rfl
  | stripWhitespace => exact shape_mapTexts _ output

theorem leavesRows_onRows {work : List Node → List Node}
    (rows : ∀ rows, ((work rows).map Node.shape).Sublist (rows.map Node.shape)) (node : Node) :
    node.LeavesRows (onRows work node) := by
  cases node with
  | null | text | map => rfl
  | list items => exact ⟨work items, rfl, Node.sublistForall₂_sameShape (rows items)⟩

theorem leavesRows_apply (processor : PostProcessor) (config : Json) (output : Node) :
    output.LeavesRows (processor.apply config output) := by
  cases processor with
  | removeEmptyRows => exact leavesRows_onRows (fun rows => rows.filter_sublist.map _) output
  | removeHeaderRow =>
      refine leavesRows_onRows (fun rows => ?_) output
      rw [shape_dropHeader]
      exact rows.tail_sublist.map _
  | inheritRowAbove | valueReplace | stripWhitespace =>
      exact .of_sameShape (sameShape_apply rfl config output)

end PostProcessor

namespace Registry

variable (registry : Registry)

theorem leavesRows_runProcessor (output : Node) (spec : String × Json) :
    output.LeavesRows (registry.runProcessor output spec) := by
  rw [runProcessor]
  cases registry.processor? spec.1 with
  | none => exact .of_sameShape rfl
  | some processor => exact processor.leavesRows_apply spec.2 output

theorem sameShape_runProcessor {spec : String × Json}
    (keeps : ∀ processor, registry.processor? spec.1 = some processor → processor.dropsRows = false)
    (output : Node) : (registry.runProcessor output spec).SameShape output := by
  rw [runProcessor]
  cases found : registry.processor? spec.1 with
  | none => rfl
  | some processor => exact PostProcessor.sameShape_apply (keeps processor found) spec.2 output

/-- Post-processors, however many and with whatever settings, leave rows of a list, in their order, and
everything of any other node, and all that they leave has its shape. Without one that drops rows, they
leave all rows. -/
theorem processors_leave_rows (specs : List (String × Json)) (input : Node) :
    input.LeavesRows (specs.foldl registry.runProcessor input) ∧
    ((∀ spec ∈ specs, ∀ processor, registry.processor? spec.1 = some processor →
        processor.dropsRows = false) →
      (specs.foldl registry.runProcessor input).SameShape input) := by
  induction specs generalizing input with
  | nil => exact ⟨.of_sameShape rfl, fun _ => rfl⟩
  | cons spec rest ih =>
      obtain ⟨left, whole⟩ := ih (registry.runProcessor input spec)
      refine ⟨(registry.leavesRows_runProcessor input spec).trans left, fun keep => ?_⟩
      obtain ⟨keeps, keepRest⟩ := List.forall_mem_cons.mp keep
      exact Eq.trans (whole keepRest) (registry.sameShape_runProcessor keeps input)

/-- A heading, a row with a list inside, a row without a component, a row of blanks, and what is no
row. -/
def assetRows : Node :=
  .list [.map [(.ofName "asset", .ofString "Asset\nname"), (.ofName "component", .ofString "Where")],
    .map [(.ofName "asset", .list [.ofString " db", .null]), (.ofName "component", .ofString "API")],
    .map [(.withTags "asset" ["row-identifier"], .ofString "log "), (.ofName "component", .ofString "")],
    .map [(.ofName "asset", .ofString " "), (.ofName "component", .null)],
    .ofString " total"]

def tidying : List (String × Json) :=
  [("remove-header-row", .null), ("inherit-row-above-if-empty", .string "component"),
    ("remove-empty-rows", .array []), ("strip-whitespace", .null)]

def tidiedRows : Node :=
  let titled (key : Key) (title : String) := key.setProperty Property.columnName (.string title)
  let component := titled (.ofName "component") "Where"
  .list [.map [(titled (.ofName "asset") "Asset", .list [.ofString "db", .null]),
      (component, .ofString "API")],
    .map [(titled (.withTags "asset" ["row-identifier"]) "Asset", .ofString "log"),
      (component, .ofString "API")],
    .ofString "total"]

theorem processors_leave_rows_of_assets :
    tidying.foldl builtin.runProcessor assetRows = tidiedRows ∧ assetRows.LeavesRows tidiedRows ∧
    ([("strip-whitespace", .null)].foldl builtin.runProcessor assetRows).SameShape assetRows := by
  have ran : tidying.foldl builtin.runProcessor assetRows = tidiedRows := rfl
  have left := (processors_leave_rows builtin tidying assetRows).1
  rw [ran] at left
  have keeps : ∀ spec ∈ [("strip-whitespace", Json.null)], ∀ processor,
      builtin.processor? spec.1 = some processor → processor.dropsRows = false := by
    refine List.forall_mem_singleton.mpr fun processor found => ?_
    obtain rfl : PostProcessor.stripWhitespace = processor := Option.some.inj found
    rfl
  exact ⟨ran, left, (processors_leave_rows builtin _ assetRows).2 keeps⟩

end Registry

end ThreatModel
