import ThreatModel.Proofs.Verification.Run

/-!
Verifying again. A verification leaves documents in which a further one finds the same and to which it
writes what is there already.
-/

namespace ThreatModel

namespace Setup

variable (setup : Setup)

theorem prepareTemplate_prepareTemplate (template : Document) :
    setup.prepareTemplate (setup.prepareTemplate template) = setup.prepareTemplate template := by
  have tagged : (setup.prepareTemplate template).assignTags setup.tags =
      setup.prepareTemplate template := by
    rw [prepareTemplate, Rule.markApproved_eq_written, Document.assignTags_written,
      Document.assignTags_assignTags]
  calc setup.prepareTemplate (setup.prepareTemplate template)
      = Rule.markApproved (setup.prepareTemplate template) setup.conventions :=
        congrArg (Rule.markApproved · setup.conventions) tagged
    _ = setup.prepareTemplate template := by
        rw [Rule.markApproved_eq_written, prepareTemplate, Rule.approvals_markApproved,
          Rule.markApproved_eq_written, Document.written_written]

/-- A verification of what a verification has left finds the same and leaves everything as it is. -/
theorem verify_verify (model template : Document) :
    setup.verify (setup.verify model template).model (setup.verify model template).template =
      setup.verify model template := by
  let scene := setup.startingScene model template
  let annotations := setup.enabledRules.flatMap scene.annotationsFrom
  have tagged : ((model.assignTags setup.tags).written annotations).assignTags setup.tags =
      (model.assignTags setup.tags).written annotations := by
    rw [Document.assignTags_written, Document.assignTags_assignTags]
  have unseen : ((model.assignTags setup.tags).written annotations).outline [] =
      (model.assignTags setup.tags).outline [] := by
    apply Document.outline_written
    intro note member
    obtain ⟨⟨name, rule, config⟩, _, written⟩ := List.mem_flatMap.mp member
    exact rule.annotation_unheeded scene config written
  -- The second run starts from the annotated model, which shows the rules what the first one did.
  have seen : (setup.startingScene ((model.assignTags setup.tags).written annotations)
      (setup.prepareTemplate template)).outline = scene.outline := by
    rw [startingScene, tagged, prepareTemplate_prepareTemplate]
    exact setup.sceneOf_outline_congr unseen rfl
  have first := setup.verify_eq model template
  rw [first, verify_eq, Scene.annotationsFrom_congr seen, Scene.issuesFrom_congr seen, tagged,
    prepareTemplate_prepareTemplate]
  exact congrArg (Verified.mk · _ _) (Document.written_written annotations)

end Setup

end ThreatModel
