import ThreatModel.Rule.Basic

/-!
Values that validators look at. Each value of a key is judged under every bound tag of the key: if
all judgements fail it is an error, if some fail it is worth knowing. All judgements are noted at
the key.
-/

namespace ThreatModel.Rule

/-- The tags of a key that call for validators and are bound to one. -/
def boundTags (bindings : Bindings) (key : Key) : List String :=
  (key.tagsWithPrefix Tag.validatePrefix).filter fun tag => (bindings.find? tag).isSome

/-- The values of a key that are judged; a key that holds no text is judged by the empty one. -/
def judgedValues (doc : Document) (key : KeyId) : List String :=
  match doc.textsOf key with
  | [] => [""]
  | texts => texts

/-- Validators look at the key: it has bound tags, and a value unless it may go without. -/
def isJudged (scene : Scene) (key : KeyId) : Bool :=
  !(boundTags scene.bindings (scene.model.key key)).isEmpty &&
    !((scene.model.valueOf key).isEmptyValue && (scene.model.key key).hasTag Tag.notMandatory)

/-- What the validators of a key say about a value. -/
def verdicts (scene : Scene) (key : KeyId) (value : String) : List Verdict :=
  (boundTags scene.bindings (scene.model.key key)).map fun tag =>
    scene.bindings.judge tag scene.model scene.template value

/-- The issue of a value that some validators refuse. -/
def validityIssue? (scene : Scene) (key : KeyId) (value : String) : Option Issue :=
  let said := verdicts scene key value
  let failed := said.filter fun verdict => !verdict.passed
  if failed.isEmpty then none
  else
    let (severity, kind) : Severity × String :=
      if failed.length = said.length then (.error, "invalid-value")
      else (.info, "valid-with-warning")
    some (scene.issueAt key severity kind
      [("field", scene.model.label key), ("value", value),
        ("expected", String.intercalate ", " (failed.map (·.expectation)))]
      (.object [("key", .string (scene.model.key key).name), ("value", .string value)])
      (some (.array (failed.map Verdict.toJson))))

/-- All that the validators say about the values of a key. -/
def validityRecord (scene : Scene) (key : KeyId) : Annotation :=
  ⟨key, Property.validation, .array (((judgedValues scene.model key).flatMap
    (verdicts scene key)).map Verdict.toJson)⟩

def findInvalid (scene : Scene) : Findings :=
  let judged := scene.model.keyIds.filter (isJudged scene)
  ⟨judged.flatMap fun key => (judgedValues scene.model key).filterMap (validityIssue? scene key),
    judged.map (validityRecord scene)⟩

end ThreatModel.Rule
