import ThreatModel.Document.Rows
import ThreatModel.Issue
import ThreatModel.Verification.Conventions
import ThreatModel.Verification.Validator
import ThreatModel.Wording

/-!
What rules see and what they say. A rule sees a scene, which it cannot change, and says issues and
annotations; the annotations are written to the model afterwards (`Findings.annotate`).
-/

namespace ThreatModel

/-- Everything that a rule may consult. -/
structure Scene where
  conventions : Conventions
  wording : Wording
  bindings : Bindings
  model : Document
  template : Document
  /-- The rows of the model. -/
  rows : RowIndex

/-- A property to be written to a key of the model. -/
structure Annotation where
  key : KeyId
  name : String
  value : Json
deriving Inhabited

structure Findings where
  issues : List Issue
  annotations : List Annotation
deriving Inhabited

namespace Findings

def ofIssues (issues : List Issue) : Findings := ⟨issues, []⟩

def empty : Findings := .ofIssues []

/-- Write the annotations, in order. -/
def annotate (findings : Findings) (doc : Document) : Document :=
  findings.annotations.foldl
    (fun doc annotation => doc.setProperty annotation.key annotation.name annotation.value) doc

end Findings

namespace Scene

/-- An issue at a key of the model: in its section and its row, described by the wording of its kind
and mended as the wording of the kind with `-fix` says. -/
def issueAt (scene : Scene) (key : KeyId) (severity : Severity) (kind : String)
    (values : List (String × String)) (data : Json) (fixData : Option Json) : Issue where
  severity := severity
  kind := kind
  table := scene.model.sectionName? key
  row := scene.rows.label? scene.model key
  description := scene.wording.message kind values
  data := some data
  fixDescription := some (scene.wording.message (kind ++ "-fix") values)
  fixData := fixData
  rule := ""

end Scene

/-- The texts with something but white space in them. -/
def filledTexts (texts : List String) : List String :=
  texts.filter fun text => !Unicode.isBlankText text

/-- The fields of a rule's setting; the absent one is an empty record. -/
def ruleFields? (fields : List String) (config : Json) : Option (List (String × Source)) :=
  Validator.settingFields? fields config

end ThreatModel
