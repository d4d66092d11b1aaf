import ThreatModel.Proofs.Document.Parts
import ThreatModel.Scheme.Engine

/-!
Interpretation sees no provenance. Queries and post-processors work on shapes, names and the values of
texts, so each commutes with leaving out provenance and properties, and so does a scheme: contents that
look the same bare are mapped to trees that look the same bare.
-/

namespace ThreatModel

open Node (bareEntry)

namespace Mapping

variable {entries : Mapping}

@[simp] theorem find?_bare (name : String) :
    Mapping.find? (entries.map bareEntry) name = (Mapping.find? entries name).map bareEntry :=
  List.find?_map

@[simp] theorem get?_bare (name : String) :
    get? (entries.map bareEntry) name = (get? entries name).map Node.bare := by
  rw [get?, get?, find?_bare, Option.map_map, Option.map_map]
  rfl

theorem insert_bare (key : Key) (value : Node) :
    (insert entries key value).map bareEntry =
      insert (entries.map bareEntry) key.bare value.bare := by
  induction entries with
  | nil => rfl
  | cons first rest ih =>
      rw [insert, List.map_cons, insert, apply_ite (List.map bareEntry), List.map_cons, List.map_cons,
        ih]
      rfl

theorem ofEntries_bare (added : List (Key × Node)) :
    (ofEntries added).map bareEntry = ofEntries (added.map bareEntry) := by
  have fold : ∀ done : Mapping,
      (added.foldl (fun done entry => insert done entry.1 entry.2) done).map bareEntry =
        (added.map bareEntry).foldl (fun done entry => insert done entry.1 entry.2)
          (done.map bareEntry) := by
    induction added with
    | nil => exact fun _ => rfl
    | cons entry rest ih =>
        intro done
        rw [List.foldl_cons, ih, insert_bare]
        rfl
  exact fold []

theorem replace_bare (name : String) (value : Node) :
    (replace entries name value).map bareEntry =
      replace (entries.map bareEntry) name value.bare := by
  induction entries with
  | nil => rfl
  | cons first rest ih =>
      rw [replace, List.map_cons, replace, apply_ite (List.map bareEntry), List.map_cons, List.map_cons,
        ih]
      rfl

end Mapping

namespace Query

variable {f : Text → Node} {params : Params}

@[simp] theorem perText_list (items : List Node) :
    perText f (.list items) = .list (items.map (perText f)) := by
  rw [perText]
  congr 1
  induction items with
  | nil => rfl
  | cons item rest ih => rw [perTextItems, ih, List.map_cons]

theorem bare_perText (leaves : ∀ leaf, (f leaf).bare = f leaf.plain) (node : Node) :
    (perText f node).bare = perText f node.bare := by
  induction node using Node.induction with
  | null => rfl
  | text leaf => exact leaves leaf
  | list items ih =>
      rw [perText_list, Node.bare_list, Node.bare_list, perText_list, List.map_map, List.map_map]
      exact congrArg Node.list (List.map_congr_left ih)
  | map entries _ => rw [Node.bare_map, perText, perText, Node.bare_null]

theorem bare_getElem? (items : List Node) (index : Nat) :
    (items[index]?.getD .null).bare = (items.map Node.bare)[index]?.getD .null := by
  rw [List.getElem?_map]
  cases items[index]? <;> rfl

theorem bare_get? (entries : Mapping) (name : String) :
    ((Mapping.get? entries name).getD .null).bare =
      (Mapping.get? (entries.map bareEntry) name).getD .null := by
  rw [Mapping.get?_bare]
  cases Mapping.get? entries name <;> rfl

theorem bare_selectRows (input : Node) :
    (selectRows params input).bare = selectRows params input.bare := by
  rw [selectRows, selectRows]
  cases params.string? "name" with
  | some name =>
      cases input with
      | null | text | list => rfl
      | map entries =>
          rw [Node.bare_map]
          exact bare_get? entries name
  | none =>
      cases params.nat? "index" with
      | none => rfl
      | some index =>
          cases input with
          | null | text | map => rfl
          | list items =>
              rw [Node.bare_list]
              exact bare_getElem? items index

@[simp] theorem headerName_bare (cell : Node) : headerName cell.bare = headerName cell := by
  rw [headerName, headerName, Node.rendered?_bare, Option.map_map]
  rfl

theorem bare_underHeader (header : List String) (cells : List Node) :
    (underHeader header cells).bare = underHeader header (cells.map Node.bare) := by
  rw [underHeader, underHeader, Node.bare_map, Mapping.ofEntries_bare, List.map_zipWith,
    List.zipWith_map_right]
  rfl

theorem rowUnder?_bare (header : List String) (row : Node) :
    rowUnder? header row.bare = (rowUnder? header row).map Node.bare := by
  cases row with
  | null | text => rfl
  | map entries => simp [rowUnder?]
  | list cells => simp [rowUnder?, bare_underHeader]

theorem bare_withHeader (rows : List Node) :
    (withHeader rows).bare = withHeader (rows.map Node.bare) := by
  cases rows with
  | nil => rfl
  | cons first rest =>
      cases first with
      | null | text => rfl
      | map entries => simp [withHeader]
      | list header =>
          rw [List.map_cons, Node.bare_list, withHeader, withHeader, Node.bare_list, List.map_filterMap,
            List.filterMap_map, List.map_map]
          have sameNames : headerName ∘ Node.bare = headerName := funext headerName_bare
          rw [sameNames]
          exact congrArg Node.list (List.filterMap_congr fun row _ => (rowUnder?_bare _ row).symm)

theorem bare_applyTable (input : Node) :
    (applyTable params input).bare = applyTable params input.bare := by
  rw [applyTable, applyTable, ← bare_selectRows]
  cases selectRows params input with
  | null | text => rfl
  | map entries => simp
  | list rows => simp [apply_ite Node.bare, bare_withHeader]

theorem bare_applyList (input : Node) :
    (applyList params input).bare = applyList params input.bare := by
  cases input with
  | null | text => rfl
  | map entries => simp [applyList]
  | list items =>
      rw [Node.bare_list, applyList, applyList]
      cases params.nat? "index" with
      | some index => exact bare_getElem? items index
      | none => simp

theorem bare_applySplit (pattern : Pattern) (input : Node) :
    (applySplit pattern input).bare = applySplit pattern input.bare := by
  have parts : ∀ leaf : Text,
      (splitParts pattern leaf).map Node.bare = splitParts pattern leaf.plain := by
    intro leaf
    rw [splitParts, splitParts, List.map_map]
    rfl
  cases input with
  | null => rfl
  | map entries => simp [applySplit]
  | text leaf => rw [applySplit, Node.bare_text, applySplit, Node.bare_list, parts]
  | list items =>
      rw [applySplit, Node.bare_list, Node.bare_list, applySplit, List.map_flatMap, List.flatMap_map]
      refine congrArg Node.list (List.flatMap_congr fun item _ => ?_)
      cases item with
      | null => rfl
      | text leaf => exact parts leaf
      | list items => simp [splitElement]
      | map entries => simp [splitElement]

/-- A query selects and derives by what shows of its input. -/
theorem bare_apply (query : Query) (input : Node) :
    (query.apply params input).bare = query.apply params input.bare := by
  cases query with
  | table => exact bare_applyTable input
  | list => exact bare_applyList input
  | text =>
      rw [apply, apply, Node.rendered?_bare]
      cases input.rendered? <;> rfl
  | «attribute» =>
      cases named : params.string? "name" with
      | none => simp [apply, named]
      | some name => cases input <;> simp [apply, named, bare_get?]
  | regexSplit =>
      rw [apply, apply]
      cases params.pattern? with
      | none => rfl
      | some pattern => exact bare_applySplit pattern input
  | regexMatch =>
      rw [apply, apply]
      cases params.pattern? with
      | none => rfl
      | some pattern =>
          refine bare_perText (fun leaf => ?_) input
          have sameValue : leaf.plain.value = leaf.value := rfl
          rw [matchedGroup, matchedGroup, sameValue]
          cases pattern.capture? leaf.value ((params.nat? "group").getD 0) <;> rfl
  | regexReplace =>
      rw [apply, apply]
      cases params.pattern? with
      | none => rfl
      | some pattern => exact bare_perText (fun _ => rfl) input
  | urlDecode => exact bare_perText (fun _ => rfl) input
  | splitLines =>
      rw [apply, apply, Node.rendered?_bare]
      cases input.rendered? with
      | none => rfl
      | some leaf => simp [Text.map, Text.plain, Text.ofString, Function.comp_def]

end Query

namespace PostProcessor

theorem mapTexts_eq_mapParts (f : String → String) (node : Node) :
    mapTexts f node = node.mapParts (Text.map f) id := by
  refine Node.eq_mapParts rfl (fun _ => rfl) (fun items => ?_) (fun entries => ?_) node
  · rw [mapTexts]
    congr 1
    induction items with
    | nil => rfl
    | cons item rest ih => rw [mapTextsOfItems, ih, List.map_cons]
  · rw [mapTexts]
    congr 1
    induction entries with
    | nil => rfl
    | cons entry rest ih => rw [mapTextsOfEntries, ih, List.map_cons, Prod.map, id]

theorem labelKeys_eq_mapParts (label : String) (node : Node) :
    labelKeys label node = node.mapParts id (columnLabel label) := by
  refine Node.eq_mapParts rfl (fun _ => rfl) (fun items => ?_) (fun entries => ?_) node
  · rw [labelKeys]
    congr 1
    induction items with
    | nil => rfl
    | cons item rest ih => rw [labelKeysOfItems, ih, List.map_cons]
  · rw [labelKeys]
    congr 1
    induction entries with
    | nil => rfl
    | cons entry rest ih => rw [labelKeysOfEntries, ih, List.map_cons, Prod.map]

theorem bare_mapTexts (f : String → String) (node : Node) :
    (mapTexts f node).bare = mapTexts f node.bare := by
  rw [mapTexts_eq_mapParts, mapTexts_eq_mapParts, Node.bare, Node.bare, Node.mapParts_mapParts,
    Node.mapParts_mapParts]
  rfl

/-- Labels are properties, so nothing shows of them. -/
@[simp] theorem bare_labelKeys (label : String) (node : Node) :
    (labelKeys label node).bare = node.bare := by
  rw [labelKeys_eq_mapParts]
  exact node.bare_mapParts (fun _ => rfl) fun _ => rfl

theorem bare_labelColumns (labels : List (Option String)) (entries : List (Key × Node)) :
    (labelColumns labels entries).map bareEntry = entries.map bareEntry := by
  fun_induction labelColumns labels entries with
  | case1 label labels key value rest ih =>
      rw [List.map_cons, List.map_cons, ih, bareEntry, bare_labelKeys]
      rfl
  | case2 labels entry rest ih => rw [List.map_cons, List.map_cons, ih]
  | case3 => rfl

@[simp] theorem bare_labelRow (labels : List (Option String)) (row : Node) :
    (labelRow labels row).bare = row.bare := by
  cases row with
  | null | text | list => rfl
  | map entries => rw [labelRow, Node.bare_map, bare_labelColumns, Node.bare_map]

theorem bare_dropHeader (rows : List Node) :
    (dropHeader rows).map Node.bare = rows.tail.map Node.bare := by
  fun_cases dropHeader rows with
  | case1 => rfl
  | case2 header rows => simp
  | case3 => rfl

@[simp] theorem cellText?_bare (name : String) (row : Node) :
    cellText? name row.bare = (cellText? name row).map Text.plain := by
  cases row with
  | null | text | list => rfl
  | map entries =>
      rw [Node.bare_map, cellText?, cellText?, Mapping.get?_bare]
      cases Mapping.get? entries name with
      | none => rfl
      | some value => cases value <;> rfl

theorem bare_replaceCell (name : String) (value : Text) (row : Node) :
    (replaceCell name value row).bare = replaceCell name value.plain row.bare := by
  cases row with
  | null | text => rfl
  | list items => simp [replaceCell]
  | map entries => simp [replaceCell, Mapping.replace_bare]

theorem bare_fillDown (name : String) (above : Option Text) (rows : List Node) :
    (fillDown name above rows).map Node.bare =
      fillDown name (above.map Text.plain) (rows.map Node.bare) := by
  induction rows generalizing above with
  | nil => rfl
  | cons row rest ih =>
      cases cellFound : cellText? name row with
      | none => simp [fillDown, cellFound, ih]
      | some cell =>
          have sameBlank : cell.plain.isBlank = cell.isBlank := rfl
          cases blank : cell.isBlank with
          | false => simp [fillDown, cellFound, sameBlank, blank, ih]
          | true => cases above <;> simp [fillDown, cellFound, sameBlank, blank, ih, bare_replaceCell]

@[simp] theorem keepsRow_bare (ignored : List String) (row : Node) :
    keepsRow ignored row.bare = keepsRow ignored row := by
  cases row with
  | null | text | list => rfl
  | map entries =>
      rw [Node.bare_map, keepsRow, keepsRow, List.any_map]
      congr 1
      funext entry
      rw [Function.comp, Node.bareEntry_name, Node.bareEntry_snd]
      cases entry.2 <;> rfl

theorem bare_onRows {work : List Node → List Node}
    (rows : ∀ rows, (work rows).map Node.bare = (work (rows.map Node.bare)).map Node.bare)
    (node : Node) : (onRows work node).bare = (onRows work node.bare).bare := by
  cases node with
  | null | text => rfl
  | list items => simpa [onRows] using rows items
  | map entries => simpa [onRows] using (Node.map entries).bare_bare.symm

/-- A post-processor works by what shows of a tree; what it labels does not show. -/
theorem bare_apply (processor : PostProcessor) (config : Json) (output : Node) :
    (processor.apply config output).bare = (processor.apply config output.bare).bare := by
  cases processor with
  | inheritRowAbove =>
      have filled : ∀ rows : List Node,
          (namesIn config).foldl (fun rows name => fillDown name none rows) (rows.map Node.bare) =
            ((namesIn config).foldl (fun rows name => fillDown name none rows) rows).map Node.bare :=
        fun rows => List.foldl_hom _ fun rows name => (bare_fillDown name none rows).symm
      refine bare_onRows (fun rows => ?_) output
      rw [filled, Node.map_bare_map_bare]
  | removeEmptyRows =>
      refine bare_onRows (fun rows => ?_) output
      have kept : keepsRow (namesIn config) ∘ Node.bare = keepsRow (namesIn config) :=
        funext (keepsRow_bare _)
      rw [List.filter_map, kept, Node.map_bare_map_bare]
  | valueReplace =>
      rw [apply, apply]
      cases replacements? config with
      | none => exact output.bare_bare.symm
      | some table => rw [bare_mapTexts, bare_mapTexts, Node.bare_bare]
  | removeHeaderRow =>
      refine bare_onRows (fun rows => ?_) output
      rw [bare_dropHeader, bare_dropHeader, ← List.map_tail, Node.map_bare_map_bare]
  | stripWhitespace => rw [apply, apply, bare_mapTexts, bare_mapTexts, Node.bare_bare]

end PostProcessor

namespace Registry

variable (registry : Registry)

theorem bare_runQueries (getData : GetData) (input : Node) :
    (registry.runQueries getData input).bare = registry.runQueries getData input.bare := by
  refine (List.foldl_hom Node.bare fun input spec => ?_).symm
  rw [runQuery, runQuery]
  cases registry.query? spec.name with
  | none => rfl
  | some query => exact (query.bare_apply input).symm

theorem bare_runProcessors (processors : List (String × Json)) (data : Node) :
    (processors.foldl registry.runProcessor data).bare =
      (processors.foldl registry.runProcessor data.bare).bare := by
  induction processors generalizing data with
  | nil => exact data.bare_bare.symm
  | cons spec rest ih =>
      have step : (registry.runProcessor data spec).bare =
          (registry.runProcessor data.bare spec).bare := by
        rw [runProcessor, runProcessor]
        cases registry.processor? spec.1 with
        | none => exact data.bare_bare.symm
        | some processor => exact processor.bare_apply spec.2 data
      rw [List.foldl_cons, List.foldl_cons, ih, step, ← ih]

theorem bare_inShape (shape : Option OutputShape) (node : Node) :
    (inShape shape node).bare = inShape shape node.bare := by
  cases shape with
  | none => rfl
  | some shape =>
      cases shape with
      | list => cases node <;> simp [inShape]
      | dict =>
          cases node with
          | null | text => rfl
          | map entries => simp [inShape]
          | list items => cases items <;> simp [inShape]

/-- Data that looks the same is finished to trees that look the same. -/
theorem bare_finish_congr {left right : Node} (output : Option OutputSpec)
    (same : left.bare = right.bare) :
    (registry.finish output left).bare = (registry.finish output right).bare := by
  cases output with
  | none => exact same
  | some output =>
      rw [finish, finish, bare_inShape, bare_inShape, bare_runProcessors, same,
        ← bare_runProcessors]

theorem bare_insertValue (done : Mapping) (key : KeySpec) (value : Node) :
    (insertValue done key value).map bareEntry =
      Mapping.insert (done.map bareEntry) key.toKey.bare value.bare := by
  cases value with
  | null | list | map => exact Mapping.insert_bare _ _
  | text leaf =>
      rw [insertValue]
      split
      · -- The provenance moves to the properties of the key, which do not show either.
        exact Mapping.insert_bare _ _
      · exact Mapping.insert_bare _ _

mutual

/-- What shows of the result depends on what shows of the content. -/
theorem bare_interpret : (scheme : ValueDef) → (input : Node) →
    (registry.interpret scheme input).bare = (registry.interpret scheme input.bare).bare
  | ⟨getData, mapData, output⟩, input => by
      rw [interpret, interpret, ← bare_runQueries]
      exact bare_interpretMapData output mapData _

theorem bare_interpretMapData (output : Option OutputSpec) :
    (mapData : Option (List (KeySpec × ValueDef))) → (data : Node) →
    (registry.interpretMapData output mapData data).bare =
      (registry.interpretMapData output mapData data.bare).bare
  | none, data => registry.bare_finish_congr output data.bare_bare.symm
  | some entries, data => by
      have built := bare_interpretEntries entries [] [] rfl
      cases data with
      | null => rfl
      | list items =>
          rw [Node.bare_list, interpretMapData, interpretMapData]
          apply registry.bare_finish_congr
          simp only [Node.bare_list, List.map_map]
          refine congrArg Node.list (List.map_congr_left fun item _ => ?_)
          simp only [Function.comp, Node.bare_map]
          exact congrArg Node.map (built item)
      | text leaf =>
          apply registry.bare_finish_congr
          simpa using built (.text leaf)
      | map members =>
          simp only [Node.bare_map, interpretMapData]
          apply registry.bare_finish_congr
          simpa using built (.map members)

theorem bare_interpretEntries : (entries : List (KeySpec × ValueDef)) → (left right : Mapping) →
    left.map bareEntry = right.map bareEntry → (input : Node) →
    (registry.interpretEntries entries left input).map bareEntry =
      (registry.interpretEntries entries right input.bare).map bareEntry
  | [], _, _, same, _ => same
  | (key, value) :: rest, left, right, same, input => by
      refine bare_interpretEntries rest _ _ ?_ input
      rw [bare_insertValue, bare_insertValue, same, bare_interpret value input]

end

end Registry

end ThreatModel
