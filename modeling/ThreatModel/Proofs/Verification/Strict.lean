import ThreatModel.Proofs.Scheme.Strict
import ThreatModel.Proofs.Verification.Frame

/-!
Strict verification. It stops where `verify` has an answer ready for a fault of the setup: at a rule or
a validator that is not registered, at a tag that is bound to none, and at a setting that cannot be read.
A setup that passes the check is verified without a stop, and what is noted at a key about its values is
the answers of tests that the bindings ask for.
-/

namespace ThreatModel

/-- Why a strict verification stops. -/
inductive Stop
  | unknownRule (name : String)
  /-- The rule cannot read its setting. -/
  | unusableSetting (rule : Rule)
  /-- No validator is bound to the tag. -/
  | unboundTag (tag : String)
  | unknownValidator (tag validator : String)
  /-- The validator cannot read its setting, or the pattern in it does not compile. -/
  | unusableValidator (tag : String) (cause : ConfigError)
deriving DecidableEq, Repr

namespace Binding

/-- What the validator of a binding says about a value by a test. -/
def answer (binding : Binding) (validator : Validator) (test : ValueTest) (model template : Document)
    (value : String) : Verdict :=
  ⟨test.passes model template value, validator.name, Validator.home,
    binding.description.getD validator.name, none⟩

/-- The binding names a validator that there is, with a setting that asks for the test. -/
structure AsksFor (binding : Binding) (validator : Validator) (test : ValueTest) : Prop where
  registered : Validator.ofName? binding.validator = some validator
  setting : validator.test? binding.config = .ok test

end Binding

/-- The verdict is what one of the bindings has a validator say. -/
def Verdict.AnsweredBy (bindings : Bindings) (model template : Document) (verdict : Verdict) : Prop :=
  ∃ entry ∈ bindings, ∃ validator test value, entry.2.AsksFor validator test ∧
    verdict = entry.2.answer validator test model template value

namespace Bindings

variable {bindings : Bindings}

def judgeStrict (bindings : Bindings) (tag : String) (model template : Document) (value : String) :
    Except Stop Verdict :=
  match find? bindings tag with
  | none => .error (.unboundTag tag)
  | some binding =>
      match Validator.ofName? binding.validator with
      | none => .error (.unknownValidator tag binding.validator)
      | some validator =>
          match validator.test? binding.config with
          | .ok test => .ok (binding.answer validator test model template value)
          | .error cause => .error (.unusableValidator tag cause)

theorem check_eq_ok_iff :
    bindings.check = .ok () ↔ ∀ entry ∈ bindings, ∃ validator test, entry.2.AsksFor validator test := by
  rw [check, forM_eq_ok_iff]
  refine forall₂_congr fun entry _ => ?_
  obtain ⟨tag, binding⟩ := entry
  constructor
  · intro accepted
    cases registered : Validator.ofName? binding.validator with
    | none => simp [registered] at accepted
    | some validator =>
        cases setting : validator.test? binding.config with
        | error cause => simp [registered, setting, Except.map] at accepted
        | ok test => exact ⟨validator, test, registered, setting⟩
  · rintro ⟨validator, test, registered, setting⟩
    simp [registered, setting, Except.map]

theorem exists_of_find? {tag : String} {binding : Binding} (found : bindings.find? tag = some binding) :
    (tag, binding) ∈ bindings := by
  obtain ⟨entry, first, same⟩ := Option.map_eq_some_iff.mp found
  have carried : entry.1 = tag := by simpa using List.find?_some first
  rw [← same, ← carried]
  exact List.mem_of_find?_eq_some first

/-- Of a tag that is bound, checked bindings know a test. -/
theorem judge_of_check (accepted : bindings.check = .ok ()) {tag : String}
    (bound : (bindings.find? tag).isSome) (model template : Document) (value : String) :
    bindings.judgeStrict tag model template value = .ok (bindings.judge tag model template value) ∧
      (bindings.judge tag model template value).AnsweredBy bindings model template := by
  obtain ⟨binding, found⟩ := Option.isSome_iff_exists.mp bound
  have listed := exists_of_find? found
  obtain ⟨validator, test, asks⟩ := check_eq_ok_iff.mp accepted (tag, binding) listed
  have judged : bindings.judge tag model template value =
      binding.answer validator test model template value := by
    simp only [judge, found, asks.registered, Validator.passes, asks.setting]
    rfl
  rw [judged]
  refine ⟨?_, (tag, binding), listed, validator, test, value, asks, rfl⟩
  simp only [judgeStrict, found, asks.registered, asks.setting]

end Bindings

namespace Rule

variable {rule : Rule} {scene : Scene} {config : Json}

/-- What was read of a setting, if it could be read. -/
def settled (rule : Rule) : Option α → Except Stop α
  | some setting => .ok setting
  | none => .error (.unusableSetting rule)

section Validity

def verdictsStrict (scene : Scene) (key : KeyId) (value : String) : Except Stop (List Verdict) :=
  (boundTags scene.bindings (scene.model.key key)).mapM fun tag =>
    scene.bindings.judgeStrict tag scene.model scene.template value

/-- A key with its values, and with what is said about each of them. -/
structure Judged where
  key : KeyId
  said : List (String × List Verdict)

def judgeKeyStrict (scene : Scene) (key : KeyId) : Except Stop Judged := do
  let said ← (judgedValues scene.model key).mapM fun value => do
    let verdicts ← verdictsStrict scene key value
    .ok (value, verdicts)
  .ok ⟨key, said⟩

/-- The issue of a value about which this was said. -/
def refusal? (scene : Scene) (key : KeyId) (value : String) (said : List Verdict) : Option Issue :=
  let failed := said.filter fun verdict => !verdict.passed
  if failed.isEmpty then none
  else
    let (severity, kind) : Severity × String :=
      if failed.length = said.length then (.error, "invalid-value")
      else (.info, "valid-with-warning")
    some (scene.issueAt key severity kind
      [("field", scene.model.label key), ("value", value),
        ("expected", String.intercalate ", " (failed.map (·.expectation)))]
      (.object [("key", .string (scene.model.key key).name), ("value", .string value)])
      (some (.array (failed.map Verdict.toJson))))

def Judged.issues (judged : Judged) (scene : Scene) : List Issue :=
  judged.said.filterMap fun (value, verdicts) => refusal? scene judged.key value verdicts

def Judged.record (judged : Judged) : Annotation :=
  ⟨judged.key, Property.validation, .array ((judged.said.flatMap (·.2)).map Verdict.toJson)⟩

def findInvalidStrict (scene : Scene) : Except Stop Findings := do
  let judged ← (scene.model.keyIds.filter (isJudged scene)).mapM (judgeKeyStrict scene)
  .ok ⟨judged.flatMap (·.issues scene), judged.map Judged.record⟩

theorem isSome_of_mem_boundTags {bindings : Bindings} {key : Key} {tag : String}
    (member : tag ∈ boundTags bindings key) : (bindings.find? tag).isSome :=
  (List.mem_filter.mp member).2

theorem verdictsStrict_of_check (accepted : scene.bindings.check = .ok ()) (key : KeyId)
    (value : String) : verdictsStrict scene key value = .ok (verdicts scene key value) :=
  mapM_eq_ok fun _ member =>
    (Bindings.judge_of_check accepted (isSome_of_mem_boundTags member) _ _ value).1

theorem answered_of_mem_verdicts (accepted : scene.bindings.check = .ok ()) {key : KeyId}
    {value : String} {verdict : Verdict} (member : verdict ∈ verdicts scene key value) :
    verdict.AnsweredBy scene.bindings scene.model scene.template := by
  obtain ⟨tag, bound, same⟩ := List.mem_map.mp member
  rw [← same]
  exact (Bindings.judge_of_check accepted (isSome_of_mem_boundTags bound) _ _ value).2

/-- What validators that cannot fail say of a key. -/
def judgeKey (scene : Scene) (key : KeyId) : Judged :=
  ⟨key, (judgedValues scene.model key).map fun value => (value, verdicts scene key value)⟩

theorem judgeKeyStrict_of_check (accepted : scene.bindings.check = .ok ()) (key : KeyId) :
    judgeKeyStrict scene key = .ok (judgeKey scene key) := by
  have said : ((judgedValues scene.model key).mapM fun value => do
      let verdicts ← verdictsStrict scene key value
      Except.ok (value, verdicts)) =
      .ok ((judgedValues scene.model key).map fun value => (value, verdicts scene key value)) := by
    refine mapM_eq_ok fun value _ => ?_
    rw [verdictsStrict_of_check accepted]
    rfl
  rw [judgeKeyStrict, said]
  rfl

theorem issues_judgeKey (key : KeyId) : (judgeKey scene key).issues scene =
    (judgedValues scene.model key).filterMap (validityIssue? scene key) :=
  List.filterMap_map

theorem record_judgeKey (key : KeyId) : (judgeKey scene key).record = validityRecord scene key := by
  rw [Judged.record, judgeKey, List.flatMap_map]
  rfl

theorem findInvalidStrict_of_check (accepted : scene.bindings.check = .ok ()) :
    findInvalidStrict scene = .ok (findInvalid scene) := by
  have judged : (scene.model.keyIds.filter (isJudged scene)).mapM (judgeKeyStrict scene) =
      .ok ((scene.model.keyIds.filter (isJudged scene)).map (judgeKey scene)) :=
    mapM_eq_ok fun key _ => judgeKeyStrict_of_check accepted key
  rw [findInvalidStrict, judged, findInvalid]
  simp only [bind, Except.bind, List.flatMap_map, List.map_map, issues_judgeKey]
  congr 2
  exact List.map_congr_left fun key _ => record_judgeKey key

end Validity

/-- What a rule finds in a scene, if its setting can be read. -/
def findStrict (rule : Rule) (scene : Scene) (config : Json) : Except Stop Findings :=
  match rule with
  | .mandatory => do
      let setting ← rule.settled (MandatorySetting.read? config)
      .ok (.ofIssues ((missingKeys scene setting).map (missingIssue scene)))
  | .conditionalMandatory => do
      let conditions ← rule.settled (Condition.readAll? config)
      .ok (.ofIssues (conditions.flatMap fun condition =>
        (condition.emptyFields scene.model).filterMap (condition.issue? scene)))
  | .uniqueness => do
      let family? ← rule.settled (readFamily? config)
      let family := family?.getD scene.conventions.uniqueFamily
      .ok (.ofIssues ((duplicateSets scene.model family [] scene.model.keyIds).map
        (duplicateIssue scene)))
  | .referenceExistence => .ok (findUnresolved scene)
  | .valueValidity => findInvalidStrict scene
  | .assetCoverage => do
      let scenarios ← rule.settled (readScenarios? config)
      .ok ⟨((assets scene).filter fun asset => (covering scene scenarios asset).isEmpty).map
          (uncoveredIssue scene),
        (assets scene).map (coveringRecord scene scenarios)⟩

theorem accepts_of_check (accepted : rule.check config = .ok ()) : rule.accepts config = true := by
  rw [check] at accepted
  split at accepted
  · next accepts => exact accepts
  · cases accepted

theorem findStrict_of_check (accepted : rule.check config = .ok ())
    (bindings : scene.bindings.check = .ok ()) :
    rule.findStrict scene config = .ok (rule.find scene config) := by
  have readable := accepts_of_check accepted
  cases rule with
  | mandatory =>
      obtain ⟨setting, read⟩ := Option.isSome_iff_exists.mp readable
      rw [findStrict, read, find, findMandatory, read]
      rfl
  | conditionalMandatory =>
      obtain ⟨conditions, read⟩ := Option.isSome_iff_exists.mp readable
      rw [findStrict, read, find, findConditional, read]
      rfl
  | uniqueness =>
      obtain ⟨family?, read⟩ := Option.isSome_iff_exists.mp readable
      rw [findStrict, read, find, findDuplicates, read]
      rfl
  | referenceExistence => rfl
  | valueValidity => exact findInvalidStrict_of_check bindings
  | assetCoverage =>
      obtain ⟨scenarios, read⟩ := Option.isSome_iff_exists.mp readable
      rw [findStrict, read, find, findUncovered, read]
      rfl

end Rule

namespace Document

variable {doc : Document}

theorem property?_key_setProperty {id key : KeyId} {name other : String} {value : Json} :
    ((doc.setProperty id name value).key key).property? other = (doc.key key).property? other ∨
      name = other ∧ ((doc.setProperty id name value).key key).property? other = some value := by
  rw [Document.key, getElem?_keys_setProperty]
  by_cases here : id.index = key.index
  · rw [if_pos here]
    cases present : doc.keys[key.index]? with
    | none => exact .inl (by rw [Document.key, present]; rfl)
    | some found =>
        by_cases same : name = other
        · refine .inr ⟨same, ?_⟩
          exact (Properties.get?_put ..).trans (if_pos same)
        · refine .inl ?_
          rw [Document.key, present]
          exact (Properties.get?_put ..).trans (if_neg same)
  · rw [if_neg here]
    exact .inl rfl

/-- A property after a run of annotations is the one before or that of an annotation. -/
theorem property?_written_cases (annotations : List Annotation) (key : KeyId) (name : String) :
    ((doc.written annotations).key key).property? name = (doc.key key).property? name ∨
      ∃ note ∈ annotations, note.name = name ∧
        ((doc.written annotations).key key).property? name = some note.value := by
  induction annotations generalizing doc with
  | nil => exact .inl rfl
  | cons note rest ih =>
      rw [written_cons]
      rcases ih with kept | ⟨later, listed, named, value⟩
      · rw [kept]
        rcases property?_key_setProperty with before | ⟨named, value⟩
        · exact .inl before
        · exact .inr ⟨note, List.mem_cons_self, named, value⟩
      · exact .inr ⟨later, List.mem_cons_of_mem _ listed, named, value⟩

end Document

namespace Setup

variable {setup : Setup}

/-- Run the rules of the entries that are enabled, one after the other. -/
def runRulesStrict (scene : Scene) :
    List (String × RuleEntry) → Document → List Issue → Except Stop (Document × List Issue)
  | [], model, issues => .ok (model, issues)
  | (name, entry) :: rest, model, issues =>
      if entry.enabled then
        match Rule.ofName? name with
        | none => .error (.unknownRule name)
        | some rule => do
            let findings ← rule.findStrict { scene with model := model } entry.config
            runRulesStrict scene rest (findings.annotate model)
              (issues ++ findings.issues.map fun issue => { issue with rule := name })
      else runRulesStrict scene rest model issues

def verifyStrict (setup : Setup) (model template : Document) : Except Stop Verified := do
  let tagged := model.assignTags setup.tags
  let marked := setup.prepareTemplate template
  let (annotated, issues) ← runRulesStrict (setup.sceneOf tagged marked) setup.rules tagged []
  .ok ⟨annotated, marked, issues⟩

theorem check_eq_ok_iff : setup.check = .ok () ↔
    (∀ entry ∈ setup.rules, checkEntry entry = .ok ()) ∧ setup.bindings.check = .ok () := by
  rw [check, ← forM_eq_ok_iff]
  cases setup.rules.forM checkEntry with
  | error fault => simp [bind, Except.bind]
  | ok => simp [bind, Except.bind]

/-- The rule of an entry, if it is enabled. -/
def enabled? (entry : String × RuleEntry) : Option (String × Rule × Json) :=
  if entry.2.enabled then (Rule.ofName? entry.1).map fun rule => (entry.1, rule, entry.2.config)
  else none

theorem runRulesStrict_of_check {scene : Scene} {entries : List (String × RuleEntry)}
    (accepted : ∀ entry ∈ entries, checkEntry entry = .ok ()) (bindings : scene.bindings.check = .ok ())
    (model : Document) (issues : List Issue) :
    runRulesStrict scene entries model issues =
      .ok (runRules scene (entries.filterMap enabled?) model issues) := by
  -- The scene changes with the model that the rules before have annotated, but not its bindings.
  induction entries generalizing model issues with
  | nil => rfl
  | cons entry rest ih =>
      obtain ⟨own, others⟩ := List.forall_mem_cons.mp accepted
      obtain ⟨name, entry⟩ := entry
      rw [runRulesStrict, List.filterMap_cons]
      cases enabled : entry.enabled with
      | false =>
          have skipped : enabled? (name, entry) = none := by simp [enabled?, enabled]
          rw [skipped]
          exact ih others model issues
      | true =>
          cases known : Rule.ofName? name with
          | none => simp [checkEntry, known] at own
          | some rule =>
              have runs : enabled? (name, entry) = some (name, rule, entry.config) := by
                simp [enabled?, enabled, known]
              have usable : rule.check entry.config = .ok () := by
                simpa [checkEntry, known, enabled] using own
              have found : rule.findStrict { scene with model := model } entry.config =
                  .ok (rule.find { scene with model := model } entry.config) :=
                Rule.findStrict_of_check usable bindings
              rw [runs]
              simp only [if_true, found, bind, Except.bind]
              exact ih others _ _

theorem verifyStrict_of_check (accepted : setup.check = .ok ()) (model template : Document) :
    setup.verifyStrict model template = .ok (setup.verify model template) := by
  obtain ⟨rules, bindings⟩ := check_eq_ok_iff.mp accepted
  have usable : (setup.startingScene model template).bindings.check = .ok () := bindings
  have ran := runRulesStrict_of_check rules usable (model.assignTags setup.tags) []
  rw [verifyStrict, ← startingScene, ran]
  rfl

/-- What a run notes under the name of validations is what the bindings have validators say. -/
theorem answered_of_annotated (accepted : setup.bindings.check = .ok ()) {model template : Document}
    {listed : String × Rule × Json} {note : Annotation}
    (written : note ∈ (setup.startingScene model template).annotationsFrom listed)
    (named : note.name = Property.validation) :
    ∃ verdicts : List Verdict, note.value = .array (verdicts.map Verdict.toJson) ∧
      ∀ verdict ∈ verdicts, verdict.AnsweredBy setup.bindings (model.assignTags setup.tags)
        (setup.prepareTemplate template) := by
  obtain ⟨name, rule, config⟩ := listed
  cases rule with
  | mandatory =>
      rw [Scene.annotationsFrom, Rule.find, Rule.findMandatory] at written
      split at written <;> cases written
  | conditionalMandatory | uniqueness | referenceExistence => cases written
  | valueValidity =>
      obtain ⟨key, _, rfl⟩ := List.mem_map.mp written
      refine ⟨_, rfl, fun verdict member => ?_⟩
      obtain ⟨value, _, said⟩ := List.mem_flatMap.mp member
      exact Rule.answered_of_mem_verdicts accepted said
  | assetCoverage =>
      obtain ⟨asset, _, rfl⟩ := List.mem_map.mp written
      have other : Property.coveringThreats ≠ Property.validation := by decide
      exact absurd named other

theorem property?_assignTags (doc : Document) (table : TagTable) (key : KeyId) (name : String) :
    ((doc.assignTags table).key key).property? name = (doc.key key).property? name :=
  ((doc.annotates_assignTags [] table).keys key).property? name List.not_mem_nil

/-- A setup that passes the check is verified without a stop, whatever the documents. What a key has
under the name of validations afterwards it had before, or it is a list of verdicts that tests of the
bindings gave, none of them with an error. -/
theorem verify_checked (accepted : setup.check = .ok ()) (model template : Document) :
    setup.verifyStrict model template = .ok (setup.verify model template) ∧
    ∀ key, let noted := ((setup.verify model template).model.key key).property? Property.validation
      noted = (model.key key).property? Property.validation ∨
        ∃ verdicts : List Verdict, noted = some (.array (verdicts.map Verdict.toJson)) ∧
          ∀ verdict ∈ verdicts, verdict.error = none ∧
            verdict.AnsweredBy setup.bindings (model.assignTags setup.tags)
              (setup.prepareTemplate template) := by
  refine ⟨verifyStrict_of_check accepted model template, fun key => ?_⟩
  have bindings := (check_eq_ok_iff.mp accepted).2
  dsimp only
  rw [verify_eq, ← property?_assignTags model setup.tags key]
  rcases Document.property?_written_cases _ key Property.validation with
    kept | ⟨note, written, named, value⟩
  · exact .inl kept
  · obtain ⟨listed, _, noted⟩ := List.mem_flatMap.mp written
    obtain ⟨verdicts, same, answered⟩ := answered_of_annotated bindings noted named
    refine .inr ⟨verdicts, value.trans (congrArg some same), fun verdict member => ?_⟩
    have byTest := answered verdict member
    refine ⟨?_, byTest⟩
    obtain ⟨_, _, _, _, _, _, rfl⟩ := byTest
    rfl

/-- Numbers of threats have to match a pattern; the setting of a rule that is not enabled is never
read. -/
def numbered (pattern : String) : Setup :=
  { standard with
    bindings := [("validate-id", ⟨"regex", .object [("pattern", .string pattern)], none⟩)],
    rules := [("asset-coverage", ⟨false, .string "none"⟩), ("value-validity", ⟨true, .null⟩)] }

def threatNumbers : Document := .ofNode (.map [
  (.withTags "first" ["validate-id", "validate-unit"], .ofString "T1"),
  (.withTags "second" ["validate-id"], .ofString "none")])

theorem verify_checked_of_numbers :
    (numbered "^T").check = .ok () ∧
    (numbered "^T").verifyStrict threatNumbers threatNumbers =
      .ok ((numbered "^T").verify threatNumbers threatNumbers) ∧
    ((numbered "^T").verify threatNumbers threatNumbers).issues.length = 1 ∧
    ((numbered "(").verifyStrict threatNumbers threatNumbers).map (fun _ => ()) =
      .error (.unusableValidator "validate-id" (.badPattern "regex" "(")) := by
  have accepted : (numbered "^T").check = .ok () := rfl
  obtain ⟨strict, _⟩ := verify_checked accepted threatNumbers threatNumbers
  exact ⟨accepted, strict, by decide +kernel, by decide +kernel⟩

end Setup

end ThreatModel
