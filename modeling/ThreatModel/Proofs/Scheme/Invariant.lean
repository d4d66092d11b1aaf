import ThreatModel.Proofs.Document.Insertion
import ThreatModel.Proofs.Scheme.Bare

/-!
What schemes keep. A property of trees that is told part by part, and of texts by their provenance alone,
passes through every query and every post-processor, and so through a whole scheme.
-/

namespace ThreatModel

namespace Mapping

theorem replace_eq_insert_or_self (entries : Mapping) (name : String) (value : Node) :
    replace entries name value = insert entries (.ofName name) value ∨
      replace entries name value = entries := by
  induction entries with
  | nil => exact .inr rfl
  | cons first rest ih =>
      have sameName : (Key.ofName name).name = name := rfl
      rw [replace, insert, sameName]
      split
      · exact .inl rfl
      · exact ih.imp (congrArg _) (congrArg _)

end Mapping

theorem PostProcessor.names_labelColumns (labels : List (Option String)) (entries : List (Key × Node)) :
    Mapping.names (labelColumns labels entries) = Mapping.names entries := by
  fun_induction labelColumns labels entries with
  | case1 label labels key value rest ih => exact congrArg (key.name :: ·) ih
  | case2 labels entry rest ih => exact congrArg (entry.1.name :: ·) ih
  | case3 => rfl

namespace Node

/-- The property is told part by part: mappings have names that fit, and a text has it for its provenance,
so one of none has it always. -/
structure Invariant (fits : List String → Prop) (holds : Node → Prop) : Prop where
  null : holds .null
  fresh : ∀ value : String, holds (.ofString value)
  derived : ∀ (leaf : Text) (f : String → String), holds (.text leaf) → holds (.text (leaf.map f))
  list : ∀ items, holds (.list items) ↔ ∀ item ∈ items, holds item
  map : ∀ entries, holds (.map entries) ↔
    fits (Mapping.names entries) ∧ ∀ entry ∈ entries, holds entry.2
  empty : fits []
  concat : ∀ names name, name ∉ names → fits names → fits (names ++ [name])

end Node

open Node (Invariant)

variable {fits : List String → Prop} {holds : Node → Prop} {input node value : Node} {leaf : Text}
  {params : Params} {pattern : Pattern} {rows : List Node} {name : String}
  (invariant : Invariant fits holds)

include invariant

namespace Node.Invariant

variable {entries : Mapping} {key : Key} {items : List Node}

theorem holds_leaf (kept : holds node) (member : leaf ∈ node.leaves) : holds (.text leaf) := by
  induction node using Node.induction with
  | null => cases member
  | text own =>
      rw [List.mem_singleton.mp member]
      exact kept
  | list items ih =>
      rw [leaves_list] at member
      obtain ⟨item, listed, below⟩ := List.mem_flatMap.mp member
      exact ih item listed ((invariant.list items).mp kept item listed) below
  | map entries ih =>
      rw [leaves_map] at member
      obtain ⟨entry, listed, below⟩ := List.mem_flatMap.mp member
      exact ih entry listed (((invariant.map entries).mp kept).2 entry listed) below

theorem holds_joined {leaves : List Text} (kept : ∀ leaf ∈ leaves, holds (.text leaf)) :
    holds (.text (joined leaves)) := by
  match leaves with
  | [] => exact invariant.fresh _
  | [single] => exact kept single List.mem_cons_self
  | _ :: _ :: _ => exact invariant.fresh _

theorem holds_rendered (kept : holds node) (rendered : node.rendered? = some leaf) : holds (.text leaf) := by
  have present : node ≠ .null := by
    rintro rfl
    cases rendered
  obtain rfl := Option.some.inj ((rendered?_of_ne_null present).symm.trans rendered)
  exact invariant.holds_joined fun _ => invariant.holds_leaf kept

theorem holds_getElem? (kept : holds (.list items)) (index : Nat) : holds (items[index]?.getD .null) := by
  cases found : items[index]? with
  | none => exact invariant.null
  | some item => exact (invariant.list items).mp kept item (List.mem_of_getElem? found)

theorem holds_of_get? (kept : holds (.map entries))
    (found : Mapping.get? entries name = some value) : holds value := by
  rw [Mapping.get?, Option.map_eq_some_iff] at found
  obtain ⟨entry, found, rfl⟩ := found
  exact ((invariant.map entries).mp kept).2 entry (List.mem_of_find?_eq_some found)

theorem holds_get? (kept : holds (.map entries)) (name : String) :
    holds ((Mapping.get? entries name).getD .null) := by
  cases found : Mapping.get? entries name with
  | none => exact invariant.null
  | some value => exact invariant.holds_of_get? kept found

theorem holds_empty : holds (.map []) :=
  (invariant.map []).mpr ⟨invariant.empty, List.forall_mem_nil _⟩

theorem holds_insert (kept : holds (.map entries)) (inserted : holds value) :
    holds (.map (Mapping.insert entries key value)) := by
  obtain ⟨fitting, values⟩ := (invariant.map entries).mp kept
  refine (invariant.map _).mpr ⟨?_, fun entry member => ?_⟩
  · rw [Mapping.names_insert]
    split
    · exact fitting
    · next absent => exact invariant.concat _ _ absent fitting
  · rcases Mapping.mem_or_value_of_mem_insert member with stood | rfl
    · exact values entry stood
    · exact inserted

theorem holds_ofEntries {added : List (Key × Node)}
    (values : ∀ entry ∈ added, holds entry.2) : holds (.map (Mapping.ofEntries added)) := by
  refine List.foldlRecOn added _ (motive := fun done : Mapping => holds (.map done)) invariant.holds_empty ?_
  exact fun done kept entry member => invariant.holds_insert kept (values entry member)

theorem holds_replace (kept : holds (.map entries)) (put : holds value) :
    holds (.map (Mapping.replace entries name value)) := by
  rcases Mapping.replace_eq_insert_or_self entries name value with inserted | unchanged
  · rw [inserted]
    exact invariant.holds_insert kept put
  · rw [unchanged]
    exact kept

theorem holds_mapParts {onText : Text → Text} {onKey : Key → Key}
    (texts : ∀ leaf, holds (.text leaf) → holds (.text (onText leaf)))
    (names : ∀ key, (onKey key).name = key.name) (kept : holds node) :
    holds (node.mapParts onText onKey) := by
  induction node using Node.induction with
  | null => exact kept
  | text leaf => exact texts leaf kept
  | list items ih =>
      rw [mapParts_list, invariant.list, List.forall_mem_map]
      exact fun item member => ih item member ((invariant.list items).mp kept item member)
  | map entries ih =>
      obtain ⟨fitting, values⟩ := (invariant.map entries).mp kept
      rw [mapParts_map, invariant.map, List.forall_mem_map]
      refine ⟨?_, fun entry member => ih entry member (values entry member)⟩
      have sameNames : Mapping.names (entries.map (Prod.map onKey (mapParts onText onKey))) =
          Mapping.names entries := by
        rw [Mapping.names, List.map_map]
        exact List.map_congr_left fun entry _ => names entry.1
      rw [sameNames]
      exact fitting

end Node.Invariant

namespace Query

theorem holds_perText {f : Text → Node}
    (texts : ∀ leaf, holds (.text leaf) → holds (f leaf)) (kept : holds input) : holds (perText f input) := by
  induction input using Node.induction with
  | null => exact kept
  | text leaf => exact texts leaf kept
  | list items ih =>
      rw [perText_list, invariant.list, List.forall_mem_map]
      exact fun item member => ih item member ((invariant.list items).mp kept item member)
  | map => exact invariant.null

theorem holds_selectRows (kept : holds input) : holds (selectRows params input) := by
  unfold selectRows
  cases params.string? "name" with
  | some name =>
      cases input with
      | null | text | list => exact invariant.null
      | map entries => exact invariant.holds_get? kept name
  | none =>
      cases params.nat? "index" with
      | none => exact kept
      | some index =>
          cases input with
          | null | text | map => exact invariant.null
          | list items => exact invariant.holds_getElem? kept index

theorem holds_underHeader {cells : List Node}
    (kept : ∀ cell ∈ cells, holds cell) (header : List String) : holds (underHeader header cells) := by
  refine invariant.holds_ofEntries fun entry member => ?_
  obtain ⟨index, _, rfl⟩ := List.mem_iff_getElem.mp member
  rw [List.getElem_zipWith]
  exact kept _ (List.getElem_mem _)

theorem holds_withHeader (kept : holds (.list rows)) : holds (withHeader rows) := by
  fun_cases withHeader rows with
  | case1 => exact kept
  | case2 header rows =>
      refine (invariant.list _).mpr fun built member => ?_
      obtain ⟨row, listed, made⟩ := List.mem_filterMap.mp member
      have rowKept := (invariant.list _).mp kept row (List.mem_cons_of_mem _ listed)
      cases row with
      | null | text | map => cases made
      | list cells =>
          cases made
          exact holds_underHeader invariant ((invariant.list cells).mp rowKept) _
  | case3 => exact invariant.null

theorem holds_applyTable (kept : holds input) : holds (applyTable params input) := by
  have selected : holds (selectRows params input) := holds_selectRows invariant kept
  unfold applyTable
  cases found : selectRows params input with
  | null | text | map => exact invariant.null
  | list rows =>
      rw [found] at selected
      dsimp only
      split
      · exact holds_withHeader invariant selected
      · exact selected

theorem holds_applyList (kept : holds input) : holds (applyList params input) := by
  unfold applyList
  cases input with
  | null | text | map => exact invariant.null
  | list items =>
      cases params.nat? "index" with
      | some index => exact invariant.holds_getElem? kept index
      | none =>
          refine (invariant.list _).mpr fun item member => ?_
          exact (invariant.list items).mp kept item (List.mem_of_mem_take (List.mem_of_mem_drop member))

theorem holds_of_mem_splitParts (kept : holds (.text leaf)) {part : Node}
    (member : part ∈ splitParts pattern leaf) : holds part := by
  obtain ⟨text, _, rfl⟩ := List.mem_map.mp member
  exact invariant.derived leaf _ kept

theorem holds_applySplit (kept : holds input) : holds (applySplit pattern input) := by
  cases input with
  | null | map => exact invariant.null
  | text leaf => exact (invariant.list _).mpr fun _ => holds_of_mem_splitParts invariant kept
  | list items =>
      refine (invariant.list _).mpr fun part member => ?_
      obtain ⟨item, listed, made⟩ := List.mem_flatMap.mp member
      have itemKept := (invariant.list items).mp kept item listed
      cases item with
      | text leaf => exact holds_of_mem_splitParts invariant itemKept made
      | null | list | map =>
          cases List.mem_singleton.mp made
          exact itemKept

theorem holds_apply (query : Query) (kept : holds input) : holds (query.apply params input) := by
  cases query with
  | table => exact holds_applyTable invariant kept
  | list => exact holds_applyList invariant kept
  | text =>
      rw [apply]
      split
      · next leaf rendered => exact invariant.derived leaf _ (invariant.holds_rendered kept rendered)
      · exact invariant.null
  | «attribute» =>
      unfold apply
      cases params.string? "name" with
      | none => exact invariant.null
      | some name =>
          cases input with
          | null | text | list => exact invariant.null
          | map entries => exact invariant.holds_get? kept name
  | regexSplit =>
      rw [apply]
      split
      · exact holds_applySplit invariant kept
      · exact kept
  | regexMatch =>
      rw [apply]
      split
      · refine holds_perText invariant (fun leaf leafKept => ?_) kept
        rw [matchedGroup]
        split
        · exact invariant.derived leaf _ leafKept
        · exact invariant.null
      · exact kept
  | regexReplace =>
      rw [apply]
      split
      · exact holds_perText invariant (fun leaf => invariant.derived leaf _) kept
      · exact kept
  | urlDecode => exact holds_perText invariant (fun leaf => invariant.derived leaf _) kept
  | splitLines =>
      rw [apply]
      split
      · next leaf rendered =>
          rw [invariant.list, List.forall_mem_map]
          exact fun line _ => invariant.derived leaf _ (invariant.holds_rendered kept rendered)
      · exact invariant.null

end Query

namespace PostProcessor

theorem holds_mapTexts (f : String → String) (kept : holds node) : holds (mapTexts f node) := by
  rw [mapTexts_eq_mapParts]
  exact invariant.holds_mapParts (fun leaf => invariant.derived leaf f) (fun _ => rfl) kept

theorem holds_labelKeys (label : String) (kept : holds node) : holds (labelKeys label node) := by
  rw [labelKeys_eq_mapParts]
  exact invariant.holds_mapParts (fun _ => id) (fun _ => rfl) kept

theorem holds_of_cellText? {row : Node} (kept : holds row) {cell : Text}
    (found : cellText? name row = some cell) : holds (.text cell) := by
  cases row with
  | null | text | list => cases found
  | map entries =>
      obtain ⟨value, found, read⟩ := Option.bind_eq_some_iff.mp found
      have valueKept := invariant.holds_of_get? kept found
      cases value with
      | null | list | map => cases read
      | text leaf =>
          cases read
          exact valueKept

theorem holds_replaceCell {row : Node} (kept : holds row) {cell : Text}
    (put : holds (.text cell)) : holds (replaceCell name cell row) := by
  cases row with
  | null | text | list => exact kept
  | map entries => exact invariant.holds_replace kept put

theorem holds_fillDown {above : Option Text}
    (aboveKept : ∀ cell ∈ above, holds (.text cell)) (kept : ∀ row ∈ rows, holds row) :
    ∀ row ∈ fillDown name above rows, holds row := by
  fun_induction fillDown name above rows with
  | case1 => exact kept
  | case2 above row rest cell found blank ih =>
      obtain ⟨rowKept, restKept⟩ := List.forall_mem_cons.mp kept
      refine List.forall_mem_cons.mpr ⟨?_, ih aboveKept restKept⟩
      cases above with
      | none => exact rowKept
      | some value => exact holds_replaceCell invariant rowKept (aboveKept value rfl)
  | case3 above row rest cell found filled ih =>
      obtain ⟨rowKept, restKept⟩ := List.forall_mem_cons.mp kept
      refine List.forall_mem_cons.mpr ⟨rowKept, ih ?_ restKept⟩
      rintro _ ⟨⟩
      exact holds_of_cellText? invariant rowKept found
  | case4 above row rest absent ih =>
      obtain ⟨rowKept, restKept⟩ := List.forall_mem_cons.mp kept
      exact List.forall_mem_cons.mpr ⟨rowKept, ih aboveKept restKept⟩

theorem holds_labelColumns (labels : List (Option String))
    {entries : List (Key × Node)} (kept : ∀ entry ∈ entries, holds entry.2) :
    ∀ entry ∈ labelColumns labels entries, holds entry.2 := by
  fun_induction labelColumns labels entries with
  | case1 label labels key value rest ih =>
      obtain ⟨valueKept, restKept⟩ := List.forall_mem_cons.mp kept
      exact List.forall_mem_cons.mpr ⟨holds_labelKeys invariant label valueKept, ih restKept⟩
  | case2 labels entry rest ih =>
      obtain ⟨valueKept, restKept⟩ := List.forall_mem_cons.mp kept
      exact List.forall_mem_cons.mpr ⟨valueKept, ih restKept⟩
  | case3 => exact kept

theorem holds_labelRow (labels : List (Option String)) {row : Node}
    (kept : holds row) : holds (labelRow labels row) := by
  cases row with
  | null | text | list => exact kept
  | map entries =>
      obtain ⟨fitting, values⟩ := (invariant.map entries).mp kept
      rw [labelRow, invariant.map, names_labelColumns]
      exact ⟨fitting, holds_labelColumns invariant labels values⟩

theorem holds_dropHeader (kept : ∀ row ∈ rows, holds row) : ∀ row ∈ dropHeader rows, holds row := by
  fun_cases dropHeader rows with
  | case1 => exact kept
  | case2 header rows =>
      rw [List.forall_mem_map]
      exact fun row member => holds_labelRow invariant _ (kept row (List.mem_cons_of_mem _ member))
  | case3 => exact (List.forall_mem_cons.mp kept).2

theorem holds_onRows {work : List Node → List Node}
    (worked : ∀ rows, (∀ row ∈ rows, holds row) → ∀ row ∈ work rows, holds row) (kept : holds node) :
    holds (onRows work node) := by
  cases node with
  | null | text | map => exact kept
  | list items => exact (invariant.list _).mpr (worked items ((invariant.list items).mp kept))

theorem holds_apply (processor : PostProcessor) (config : Json)
    (kept : holds node) : holds (processor.apply config node) := by
  cases processor with
  | inheritRowAbove =>
      refine holds_onRows invariant (fun rows rowsKept => ?_) kept
      refine List.foldlRecOn (namesIn config) _ (motive := fun filled : List Node =>
        ∀ row ∈ filled, holds row) rowsKept ?_
      exact fun filled filledKept name _ => holds_fillDown invariant nofun filledKept
  | removeEmptyRows =>
      refine holds_onRows invariant (fun rows rowsKept row member => ?_) kept
      exact rowsKept row (List.mem_of_mem_filter member)
  | valueReplace =>
      rw [apply]
      split
      · exact holds_mapTexts invariant _ kept
      · exact kept
  | removeHeaderRow => exact holds_onRows invariant (fun _ => holds_dropHeader invariant) kept
  | stripWhitespace => exact holds_mapTexts invariant _ kept

end PostProcessor

namespace Registry

variable {registry : Registry}

theorem holds_runQueries (getData : GetData) (kept : holds input) :
    holds (registry.runQueries getData input) := by
  refine List.foldlRecOn getData.queries _ (motive := holds) kept ?_
  intro selected selectedKept spec _
  rw [runQuery]
  split
  · exact Query.holds_apply invariant _ selectedKept
  · exact invariant.null

theorem holds_inShape (shape : Option OutputShape) (kept : holds node) : holds (inShape shape node) := by
  fun_cases inShape shape node with
  | case1 items =>
      rw [List.head?_eq_getElem?]
      exact invariant.holds_getElem? kept 0
  | case2 | case5 => exact kept
  | case3 => exact (invariant.list []).mpr (List.forall_mem_nil _)
  | case4 => exact (invariant.list _).mpr (List.forall_mem_singleton.mpr kept)

theorem holds_finish (output : Option OutputSpec) (kept : holds node) :
    holds (registry.finish output node) := by
  cases output with
  | none => exact kept
  | some output =>
      refine holds_inShape invariant _ ?_
      refine List.foldlRecOn output.processors _ (motive := holds) kept ?_
      intro processed processedKept spec _
      rw [runProcessor]
      split
      · exact PostProcessor.holds_apply invariant _ _ processedKept
      · exact processedKept

theorem holds_insertValue {done : Mapping} (kept : holds (.map done))
    (key : KeySpec) (valueKept : holds value) : holds (.map (insertValue done key value)) := by
  cases value with
  | null | list | map => exact invariant.holds_insert kept valueKept
  | text leaf =>
      rw [insertValue]
      split
      · exact invariant.holds_insert kept (invariant.fresh leaf.value)
      · exact invariant.holds_insert kept valueKept

mutual

/-- What a scheme makes of a tree with the property has it too. -/
theorem holds_interpret : (scheme : ValueDef) → (input : Node) →
    holds input → holds (registry.interpret scheme input)
  | ⟨getData, mapData, output⟩, _, kept =>
      holds_interpretMapData output mapData _ (holds_runQueries invariant getData kept)

theorem holds_interpretMapData (output : Option OutputSpec) :
    (mapData : Option (List (KeySpec × ValueDef))) → (data : Node) → holds data →
    holds (registry.interpretMapData output mapData data)
  | none, _, kept => holds_finish invariant output kept
  | some entries, data, kept => by
      cases data with
      | null => exact invariant.null
      | list items =>
          refine holds_finish invariant output ((invariant.list _).mpr ?_)
          rw [List.forall_mem_map]
          intro item member
          exact holds_interpretEntries entries [] item invariant.holds_empty
            ((invariant.list items).mp kept item member)
      | text | map =>
          exact holds_finish invariant output
            (holds_interpretEntries entries [] _ invariant.holds_empty kept)

theorem holds_interpretEntries :
    (entries : List (KeySpec × ValueDef)) → (done : Mapping) → (input : Node) → holds (.map done) →
    holds input → holds (.map (registry.interpretEntries entries done input))
  | [], _, _, doneKept, _ => doneKept
  | (key, value) :: rest, _, input, doneKept, kept =>
      holds_interpretEntries rest _ input
        (holds_insertValue invariant doneKept key (holds_interpret value input kept)) kept

end

end Registry

end ThreatModel
