import ThreatModel.Verification.Setup

/-!
Verification: tags are assigned to both documents, the approved values of the template are marked,
and the enabled rules look at the model one after the other. Each sees the annotations of those
before it.
-/

namespace ThreatModel

/-- The documents as a verification leaves them, and what it found. -/
structure Verified where
  model : Document
  template : Document
  issues : List Issue
deriving Inhabited

namespace Setup

/-- The wording in use: the standard one but for what the setup overrides. -/
def wordingInUse (setup : Setup) : Wording := Wording.builtin.merged setup.wording

/-- What the rules see of two documents that are tagged and marked. -/
def sceneOf (setup : Setup) (model template : Document) : Scene where
  conventions := setup.conventions
  wording := setup.wordingInUse
  bindings := setup.bindings
  model := model
  template := template
  rows := RowIndex.build model

/-- The template before the rules look at it. -/
def prepareTemplate (setup : Setup) (template : Document) : Document :=
  Rule.markApproved (template.assignTags setup.tags) setup.conventions

/-- The rules that are enabled, with their names and settings. -/
def enabledRules (setup : Setup) : List (String × Rule × Json) :=
  setup.rules.filterMap fun entry =>
    if entry.2.enabled then (Rule.ofName? entry.1).map fun rule => (entry.1, rule, entry.2.config)
    else none

/-- Run rules one after the other on the model, which keeps their annotations. -/
def runRules (scene : Scene) :
    List (String × Rule × Json) → Document → List Issue → Document × List Issue
  | [], model, issues => (model, issues)
  | (name, rule, config) :: rest, model, issues =>
      let findings := rule.find { scene with model := model } config
      runRules scene rest (findings.annotate model)
        (issues ++ findings.issues.map fun issue => { issue with rule := name })

/-- Verify a model against a template. -/
def verify (setup : Setup) (model template : Document) : Verified :=
  let tagged := model.assignTags setup.tags
  let marked := setup.prepareTemplate template
  let (annotated, issues) :=
    runRules (setup.sceneOf tagged marked) setup.enabledRules tagged []
  ⟨annotated, marked, issues⟩

end Setup

namespace Verified

/-- The issues with their counts. -/
def report (verified : Verified) : Json :=
  .object [("summary", (Summary.ofIssues verified.issues).toJson),
    ("issues", .array (verified.issues.map Issue.toJson))]

end Verified

end ThreatModel
