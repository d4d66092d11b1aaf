import ThreatModel.Scheme.Engine

/-!
Definitions whose queries yield nothing. No post-processor makes anything of an absent value, so nothing is
what the whole definition yields, with one exception: without entries to build, a definition that asks for a
list has the absent value brought into shape.
-/

namespace ThreatModel

@[simp] theorem PostProcessor.apply_null (processor : PostProcessor) (config : Json) :
    processor.apply config .null = .null := by
  cases processor with
  | inheritRowAbove | removeEmptyRows | removeHeaderRow | stripWhitespace => rfl
  | valueReplace =>
      rw [apply]
      split <;> rfl

/-- An output in the shape of a list is asked for. -/
def asksForList (output : Option OutputSpec) : Bool :=
  match output with
  | some ⟨some .list, _⟩ => true
  | _ => false

/-- The definition builds no entries, so that an absent value is brought into the shape of a list. -/
def ValueDef.listsAbsence (definition : ValueDef) : Bool :=
  definition.mapData.isNone && asksForList definition.output

namespace Registry

variable (registry : Registry)

@[simp] theorem runProcessor_null (spec : String × Json) :
    registry.runProcessor .null spec = .null := by
  rw [runProcessor]
  split
  · exact PostProcessor.apply_null _ _
  · rfl

@[simp] theorem runProcessors_null (processors : List (String × Json)) :
    processors.foldl registry.runProcessor .null = .null := by
  induction processors with
  | nil => rfl
  | cons spec rest ih => rw [List.foldl_cons, runProcessor_null, ih]

theorem finish_null (output : Option OutputSpec) :
    registry.finish output .null = if asksForList output then .list [] else .null := by
  cases output with
  | none => rfl
  | some output =>
      obtain ⟨shape, processors⟩ := output
      rw [finish, runProcessors_null]
      rcases shape with _ | _ | _ <;> rfl

/-- Where the queries of a definition yield nothing, so does the definition, whatever its entries and its
output are; but an absent value that is to be a list is the empty list. -/
theorem interpret_of_absent (definition : ValueDef) (input : Node)
    (absent : registry.runQueries definition.getData input = .null) :
    registry.interpret definition input =
      if definition.listsAbsence then .list [] else .null := by
  obtain ⟨getData, mapData, output⟩ := definition
  rw [interpret, absent, ValueDef.listsAbsence]
  cases mapData with
  | some entries => rfl
  | none => exact registry.finish_null output

/-- The rows under a name, tidied and in a list. -/
def rowsUnder (name : String) (mapData : Option (List (KeySpec × ValueDef))) : ValueDef :=
  ⟨.one ⟨"attribute", [("name", .string name)]⟩, mapData,
    some ⟨some .list, [("remove-empty-rows", .array [])]⟩⟩

def namedAssets : ValueDef := rowsUnder "assets" (some [(.plain "name", .passing)])

def tabled : Node := .map [(.ofName "threats", .list [.ofString "T1"])]

theorem interpret_of_absent_attribute :
    builtin.runQueries namedAssets.getData tabled = .null ∧
      builtin.interpret namedAssets tabled = .null := by
  have absent : builtin.runQueries namedAssets.getData tabled = .null := rfl
  exact ⟨absent, interpret_of_absent builtin namedAssets tabled absent⟩

/-- Without entries, what is asked for as a list is a list even if it is absent. -/
theorem interpret_not_null_of_absent :
    ¬ ∀ (definition : ValueDef) (input : Node),
      builtin.runQueries definition.getData input = .null →
        builtin.interpret definition input = .null := by
  intro ends
  have absent : builtin.runQueries (rowsUnder "assets" none).getData tabled = .null := rfl
  have listed : builtin.interpret (rowsUnder "assets" none) tabled = .list [] := rfl
  have ended := ends _ _ absent
  rw [listed] at ended
  cases ended

end Registry

end ThreatModel
