import ThreatModel.Proofs.Document.Writing
import ThreatModel.Proofs.Rule.Outline
import ThreatModel.Verification.Basic

/-!
What a run of rules comes to. Rules write properties that no rule reads, so each rule finds what it
would find in the documents as the first rule sees them. A run writes all annotations to the model, and
its issues are those of the rules, one rule after the other.
-/

namespace ThreatModel

namespace Rule

theorem annotation_name (rule : Rule) (scene : Scene) (config : Json) {note : Annotation}
    (written : note ∈ (rule.find scene config).annotations) :
    note.name = Property.validation ∨ note.name = Property.coveringThreats := by
  cases rule with
  | mandatory =>
      rw [find, findMandatory] at written
      split at written <;> cases written
  | conditionalMandatory | uniqueness | referenceExistence => cases written
  | valueValidity =>
      obtain ⟨key, _, rfl⟩ := List.mem_map.mp written
      exact .inl rfl
  | assetCoverage =>
      obtain ⟨asset, _, rfl⟩ := List.mem_map.mp written
      exact .inr rfl

/-- No rule reads of the model what a rule writes to it. -/
theorem annotation_unheeded (rule : Rule) (scene : Scene) (config : Json) {note : Annotation}
    (written : note ∈ (rule.find scene config).annotations) (value : Json) :
    Key.heeds [] note.name value = false := by
  rcases rule.annotation_name scene config written with name | name <;> rw [name] <;> rfl

/-- The annotations that approval writes to the template. -/
def approvals (template : Document) (conventions : Conventions) : List Annotation :=
  (approvedKeys template conventions).map fun key => ⟨key, Property.preApproved, .bool true⟩

theorem markApproved_eq_written (template : Document) (conventions : Conventions) :
    markApproved template conventions = template.written (approvals template conventions) := by
  rw [markApproved, approvals, Document.written, List.foldl_map]

theorem approvals_congr {kept : List String} {left right : Document}
    (same : left.outline kept = right.outline kept) (conventions : Conventions) :
    approvals left conventions = approvals right conventions := by
  rw [approvals, approvals, ← approvedKeys_outline kept, same, approvedKeys_outline]

theorem approvals_markApproved (template : Document) (conventions : Conventions) :
    approvals (markApproved template conventions) conventions = approvals template conventions := by
  have marks : (markApproved template conventions).outline [] = template.outline [] := by
    rw [markApproved_eq_written]
    apply Document.outline_written
    intro note member value
    obtain ⟨key, _, rfl⟩ := List.mem_map.mp member
    rfl
  exact approvals_congr marks conventions

end Rule

namespace Scene

/-- The issues of a listed rule, which carry its name. -/
def issuesFrom (scene : Scene) (listed : String × Rule × Json) : List Issue :=
  (listed.2.1.find scene listed.2.2).issues.map fun issue => { issue with rule := listed.1 }

def annotationsFrom (scene : Scene) (listed : String × Rule × Json) : List Annotation :=
  (listed.2.1.find scene listed.2.2).annotations

theorem issuesFrom_congr {left right : Scene} (same : left.outline = right.outline) :
    left.issuesFrom = right.issuesFrom := by
  funext listed
  rw [issuesFrom, issuesFrom, ← Rule.find_outline, same, Rule.find_outline]

theorem annotationsFrom_congr {left right : Scene} (same : left.outline = right.outline) :
    left.annotationsFrom = right.annotationsFrom := by
  funext listed
  rw [annotationsFrom, annotationsFrom, ← Rule.find_outline, same, Rule.find_outline]

end Scene

namespace Setup

theorem runRules_eq (scene : Scene) (rules : List (String × Rule × Json)) (model : Document)
    (issues : List Issue) (same : model.outline [] = scene.model.outline []) :
    runRules scene rules model issues =
      (model.written (rules.flatMap scene.annotationsFrom),
        issues ++ rules.flatMap scene.issuesFrom) := by
  -- The model changes on the way, its outline does not: `same` holds again for the rules that remain.
  induction rules generalizing model issues with
  | nil => exact Prod.ext rfl (List.append_nil issues).symm
  | cons listed rest ih =>
      obtain ⟨name, rule, config⟩ := listed
      have seen : ({ scene with model := model } : Scene).outline = scene.outline := by
        rw [Scene.outline, Scene.outline, same]
      have found : rule.find { scene with model := model } config = rule.find scene config := by
        rw [← Rule.find_outline, seen, Rule.find_outline]
      have unseen : ((rule.find scene config).annotate model).outline [] =
          scene.model.outline [] := by
        rw [← same]
        exact Document.outline_written fun _ member => rule.annotation_unheeded scene config member
      rw [runRules, found, ih _ _ unseen, List.flatMap_cons, List.flatMap_cons,
        Document.written_append, List.append_assoc]
      rfl

/-- What the first rule sees. -/
def startingScene (setup : Setup) (model template : Document) : Scene :=
  setup.sceneOf (model.assignTags setup.tags) (setup.prepareTemplate template)

theorem sceneOf_outline_congr (setup : Setup) {left right leftTemplate rightTemplate : Document}
    (models : left.outline [] = right.outline [])
    (templates : leftTemplate.outline [Property.preApproved] =
      rightTemplate.outline [Property.preApproved]) :
    (setup.sceneOf left leftTemplate).outline = (setup.sceneOf right rightTemplate).outline := by
  have rows : RowIndex.build left = RowIndex.build right := by
    rw [← RowIndex.build_outline [], models, RowIndex.build_outline]
  rw [Scene.outline, Scene.outline, sceneOf, sceneOf, models, templates, rows]

theorem verify_eq (setup : Setup) (model template : Document) :
    setup.verify model template =
      ⟨(model.assignTags setup.tags).written
          (setup.enabledRules.flatMap (setup.startingScene model template).annotationsFrom),
        setup.prepareTemplate template,
        setup.enabledRules.flatMap (setup.startingScene model template).issuesFrom⟩ := by
  have ran := runRules_eq (setup.startingScene model template) setup.enabledRules
    (model.assignTags setup.tags) [] rfl
  rw [List.nil_append] at ran
  rw [verify, ← startingScene, ran]

end Setup

end ThreatModel
