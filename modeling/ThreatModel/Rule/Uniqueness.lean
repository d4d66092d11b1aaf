import ThreatModel.Rule.Basic

/-!
Values that are not to repeat. A key opts in with a reference tag of the unique family. A set of
equal values is found once, at its first key; the other keys of the set are not looked at again.
-/

namespace ThreatModel.Rule

/-- The comparison that finds equal values in other sections. -/
def inOtherSection : String := "value_not_table"

/-- A key with a value that other keys have too. -/
structure DuplicateSet where
  key : KeyId
  value : String
  others : List KeyId
deriving DecidableEq, Repr

/-- A text equals the value and belongs to another section than `key`. -/
def otherSectionComparison (doc : Document) (key : KeyId) : Comparison :=
  fun tag value found text =>
    tag.comparison == inOtherSection && normalise value == normalise text &&
      doc.dataTag? found != doc.dataTag? key

/-- The other keys that the unique tags of a key lead to for a value. -/
def otherHolders (doc : Document) (family : String) (key : KeyId) (value : String) : List KeyId :=
  (((doc.references family (doc.key key) value (some (otherSectionComparison doc key))).map
    (·.key)).filter (· != key)).eraseDups

/-- The first value of a key that others have too. -/
def duplicateSet? (doc : Document) (family : String) (key : KeyId) : Option DuplicateSet :=
  (filledTexts (doc.textsOf key)).findSome? fun value =>
    match otherHolders doc family key value with
    | [] => none
    | others => some ⟨key, value, others⟩

/-- The duplicate sets that begin at the keys given, but for those that `reported` keys are in. -/
def duplicateSets (doc : Document) (family : String) (reported : List KeyId) :
    List KeyId → List DuplicateSet
  | [] => []
  | key :: rest =>
      if reported.contains key then duplicateSets doc family reported rest
      else
        match duplicateSet? doc family key with
        | none => duplicateSets doc family reported rest
        | some set => set :: duplicateSets doc family (key :: set.others ++ reported) rest

/-- What a key is called among duplicates: its row's label, or else its text. -/
def holderLabel (scene : Scene) (key : KeyId) : String :=
  ((scene.rows.label? scene.model key).or (scene.model.keyText? key)).getD ""

def duplicateIssue (scene : Scene) (set : DuplicateSet) : Issue :=
  scene.issueAt set.key .error "duplicate-value"
    [("field", scene.model.label set.key), ("value", set.value)]
    (.object [("value", .string set.value),
      ("duplicates", .ofStrings (set.others.map (holderLabel scene)))]) none

/-- A setting may name another family; one that cannot be read names none. -/
def readFamily? (config : Json) : Option (Option String) := do
  let record ← ruleFields? ["prefix"] config
  Source.withDefault? record "prefix" (Source.optional? Source.string?) none

def findDuplicates (scene : Scene) (config : Json) : Findings :=
  let family := ((readFamily? config).join).getD scene.conventions.uniqueFamily
  .ofIssues ((duplicateSets scene.model family [] scene.model.keyIds).map (duplicateIssue scene))

end ThreatModel.Rule
