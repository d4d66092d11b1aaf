import ThreatModel.Proofs.Document.Outline
import ThreatModel.Rule.All

/-!
What rules see. Every rule finds the same in a scene and in its outline: of the documents it reads
shapes, names, tags, texts and the names of sections and columns, and of the template also which values
are approved. No rule reads a property that a rule writes.
-/

namespace ThreatModel

/-- The scene with the outlines of its documents. -/
def Scene.outline (scene : Scene) : Scene :=
  { scene with
    model := scene.model.outline []
    template := scene.template.outline [Property.preApproved] }

section Tests

variable {kept keptModel keptTemplate : List String} {doc model template : Document}

@[simp] theorem Document.holdsText_outline (region : Item) (tag value : String) :
    (doc.outline kept).holdsText region.plain tag value = doc.holdsText region tag value := by
  simp [holdsText, Function.comp_def]

theorem ValueTest.passes_outline (test : ValueTest) (value : String) :
    test.passes (model.outline keptModel) (template.outline keptTemplate) value =
      test.passes model template value := by
  cases test with
  | date | pattern | property => rfl
  | templateMatch tag => simp [passes]
  | «exists» dataTag fieldTag side =>
      cases side with
      | model =>
          simp only [passes, Document.section?_outline]
          cases model.section? dataTag <;> simp
      | template =>
          simp only [passes, Document.section?_outline]
          cases template.section? dataTag <;> simp

theorem Validator.passes_outline (validator : Validator) (config : Json) (value : String) :
    validator.passes config (model.outline keptModel) (template.outline keptTemplate) value =
      validator.passes config model template value := by
  rw [passes, passes]
  cases validator.test? config with
  | error fault => rfl
  | ok test => exact test.passes_outline value

@[simp] theorem Bindings.judge_outline (bindings : Bindings) (tag value : String) :
    bindings.judge tag (model.outline keptModel) (template.outline keptTemplate) value =
      bindings.judge tag model template value := by
  rw [judge, judge]
  simp only [Validator.passes_outline]

end Tests

namespace Scene

variable {scene : Scene}

@[simp] theorem model_outline : scene.outline.model = scene.model.outline [] := rfl

@[simp] theorem template_outline :
    scene.outline.template = scene.template.outline [Property.preApproved] := rfl

@[simp] theorem conventions_outline : scene.outline.conventions = scene.conventions := rfl

@[simp] theorem bindings_outline : scene.outline.bindings = scene.bindings := rfl

@[simp] theorem rows_outline : scene.outline.rows = scene.rows := rfl

@[simp] theorem issueAt_outline (key : KeyId) (severity : Severity) (kind : String)
    (values : List (String × String)) (data : Json) (fixData : Option Json) :
    scene.outline.issueAt key severity kind values data fixData =
      scene.issueAt key severity kind values data fixData := by
  simp [issueAt, outline]

end Scene

namespace Rule

variable {scene : Scene} {kept : List String} {doc template : Document}

section Presence

@[simp] theorem requires_outline (setting : MandatorySetting) (conventions : Conventions)
    (key : Key) : setting.requires conventions (key.outline kept) = setting.requires conventions key :=
  rfl

@[simp] theorem selects_outline (selector : String) (key : Key) :
    selects selector (key.outline kept) = selects selector key := rfl

theorem findMandatory_outline (config : Json) :
    findMandatory scene.outline config = findMandatory scene config := by
  have issues : missingIssue scene.outline = missingIssue scene := by
    funext key
    simp [missingIssue]
  simp [findMandatory, missingKeys, issues]

theorem dependency?_outline (condition : Condition) (key : KeyId) :
    condition.dependency? (doc.outline kept) key =
      (condition.dependency? doc key).map Item.plainEntry := by
  simp [Condition.dependency?, Function.comp_def]

@[simp] theorem fires_plain (condition : Condition) (dependency : Item) :
    condition.fires dependency.plain = condition.fires dependency := by
  cases expected : condition.expected <;> simp [Condition.fires, expected]

theorem issue?_outline (condition : Condition) (key : KeyId) :
    condition.issue? scene.outline key = condition.issue? scene key := by
  simp only [Condition.issue?, Scene.model_outline, dependency?_outline]
  cases condition.dependency? scene.model key with
  | none => rfl
  | some entry => simp

theorem findConditional_outline (config : Json) :
    findConditional scene.outline config = findConditional scene config := by
  have issues : ∀ condition, Condition.issue? condition scene.outline =
      Condition.issue? condition scene :=
    fun condition => funext (issue?_outline condition)
  simp [findConditional, Condition.emptyFields, issues]

end Presence

section Uniqueness

theorem duplicateSet?_outline (family : String) (key : KeyId) :
    duplicateSet? (doc.outline kept) family key = duplicateSet? doc family key := by
  have comparison : otherSectionComparison (doc.outline kept) key =
      otherSectionComparison doc key := by
    funext tag value found text
    simp [otherSectionComparison]
  simp [duplicateSet?, otherHolders, comparison]

theorem duplicateSets_outline (family : String) (reported keys : List KeyId) :
    duplicateSets (doc.outline kept) family reported keys =
      duplicateSets doc family reported keys := by
  induction keys generalizing reported with
  | nil => rfl
  | cons key rest ih => simp only [duplicateSets, duplicateSet?_outline, ih]

theorem findDuplicates_outline (config : Json) :
    findDuplicates scene.outline config = findDuplicates scene config := by
  have labels : holderLabel scene.outline = holderLabel scene := by
    funext key
    simp [holderLabel]
  have issues : duplicateIssue scene.outline = duplicateIssue scene := by
    funext set
    simp [duplicateIssue, labels]
  simp [findDuplicates, duplicateSets_outline, issues]

end Uniqueness

section Resolution

@[simp] theorem refersBy_outline (family : String) (key : Key) :
    refersBy family (key.outline kept) = refersBy family key := rfl

@[simp] theorem findsNoOther_outline (family : String) (key : KeyId) :
    findsNoOther (doc.outline kept) family key = findsNoOther doc family key := by
  funext value
  simp [findsNoOther]

theorem approvedKeys_outline (kept : List String) (conventions : Conventions) :
    approvedKeys (template.outline kept) conventions = approvedKeys template conventions := by
  have approved : approves (template.outline kept) conventions = approves template conventions := by
    funext key
    simp [approves]
  rw [approvedKeys, approvedKeys, approved, Document.keyIds_outline]

theorem isMarked_outline (asked : Property.preApproved ∈ kept) (key : Key) :
    isMarked (key.outline kept) = isMarked key := by
  rw [isMarked, isMarked, Key.property?_outline_of_mem asked]

theorem isApproved_outline (asked : Property.preApproved ∈ kept) (name value : String) :
    isApproved (template.outline kept) name value = isApproved template name value := by
  simp [isApproved, isMarked_outline asked]

theorem resolves_outline (key : KeyId) (value : String) :
    resolves scene.outline key value = resolves scene key value := by
  simp [resolves, isApproved_outline]

theorem findUnresolved_outline : findUnresolved scene.outline = findUnresolved scene := by
  have issues : unresolvedIssue scene.outline = unresolvedIssue scene := by
    funext key value
    simp [unresolvedIssue]
  have referring : refers scene.outline = refers scene := by
    funext key
    simp [refers]
  have values : unresolved scene.outline = unresolved scene := by
    simp [unresolved, referring, resolves_outline]
  rw [findUnresolved, findUnresolved, issues, values]

end Resolution

section Validity

@[simp] theorem boundTags_outline (bindings : Bindings) (key : Key) :
    boundTags bindings (key.outline kept) = boundTags bindings key := rfl

theorem verdicts_outline (key : KeyId) : verdicts scene.outline key = verdicts scene key := by
  funext value
  simp [verdicts]

theorem findInvalid_outline : findInvalid scene.outline = findInvalid scene := by
  have values : judgedValues (scene.model.outline []) = judgedValues scene.model := by
    funext key
    simp [judgedValues]
  have judged : isJudged scene.outline = isJudged scene := by
    funext key
    simp [isJudged]
  have issues : validityIssue? scene.outline = validityIssue? scene := by
    funext key value
    simp [validityIssue?, verdicts_outline]
  have records : validityRecord scene.outline = validityRecord scene := by
    funext key
    simp [validityRecord, verdicts_outline, values]
  simp [findInvalid, judged, values, issues, records]

end Validity

section Coverage

theorem tableRows_outline (dataTag : String) :
    tableRows (doc.outline kept) dataTag = (tableRows doc dataTag).map Item.plain := by
  rw [tableRows, tableRows, Document.section?_outline]
  rcases doc.section? dataTag with _ | ⟨key, _ | _ | ⟨id, items⟩ | ⟨id, entries⟩⟩
  · rfl
  · rfl
  · rfl
  · have mappings : Item.isMapping ∘ Item.plain = Item.isMapping := funext Item.isMapping_plain
    simp [Item.plainEntry, List.filter_map, mappings]
  · simp [Item.plainEntry]

theorem columnTexts_outline (row : Item) (tag : String) :
    columnTexts (doc.outline kept) row.plain tag = columnTexts doc row tag := by
  rw [columnTexts, columnTexts, Document.findTagged?_outline]
  cases doc.findTagged? row tag <;> simp

theorem columnText?_outline (row : Item) (tag : String) :
    columnText? (doc.outline kept) row.plain tag = columnText? doc row tag := by
  rw [columnText?, columnText?, Document.findTagged?_outline]
  cases doc.findTagged? row tag <;> simp

theorem threatOf_outline (number : Nat) (row : Item) :
    threatOf scene.outline number row.plain = threatOf scene number row := by
  simp [threatOf, columnTexts_outline]

theorem threats_outline : threats scene.outline = threats scene := by
  apply List.ext_getElem?
  intro index
  simp [threats, tableRows_outline, threatOf_outline, Function.comp_def]

theorem assetOf?_outline (row : Item) : assetOf? scene.outline row.plain = assetOf? scene row := by
  simp only [assetOf?, Scene.model_outline, Scene.conventions_outline,
    Document.findTagged?_outline]
  cases scene.model.findTagged? row scene.conventions.assets.storage <;>
    simp [Item.plainEntry, columnText?_outline]

theorem assets_outline : assets scene.outline = assets scene := by
  simp [assets, tableRows_outline, List.filterMap_map, assetOf?_outline]

theorem findUncovered_outline (config : Json) :
    findUncovered scene.outline config = findUncovered scene config := by
  have covers : covering scene.outline = covering scene := by
    funext scenarios asset
    simp [covering, threats_outline]
  have records : coveringRecord scene.outline = coveringRecord scene := by
    funext scenarios asset
    simp [coveringRecord, covers]
  have issues : uncoveredIssue scene.outline = uncoveredIssue scene := by
    funext asset
    simp [uncoveredIssue]
  rw [findUncovered, findUncovered, assets_outline, covers, records, issues]

end Coverage

/-- Rules see no more of a scene than its outline. -/
theorem find_outline (rule : Rule) (scene : Scene) (config : Json) :
    rule.find scene.outline config = rule.find scene config := by
  cases rule with
  | mandatory => exact findMandatory_outline config
  | conditionalMandatory => exact findConditional_outline config
  | uniqueness => exact findDuplicates_outline config
  | referenceExistence => exact findUnresolved_outline
  | valueValidity => exact findInvalid_outline
  | assetCoverage => exact findUncovered_outline config

end Rule

end ThreatModel
