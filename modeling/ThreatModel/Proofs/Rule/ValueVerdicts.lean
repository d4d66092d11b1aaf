import Mathlib.Data.List.ReduceOption
import ThreatModel.Proofs.Verification.Strict

/-!
What validators say about values. A key is looked at if a bound tag calls for it, unless it may go without
a value and has none. Each text of it is judged under all bound tags, what is reported of the text depends
on how many of the verdicts fail, and all verdicts are written to the key.
-/

namespace ThreatModel

namespace Bindings

variable {bindings : Bindings} {model template : Document} {tag value : String}

/-- The tag calls for a validator and is bound to one, registered or not. -/
def Binds (bindings : Bindings) (tag : String) : Prop :=
  Tag.validatePrefix.toList <+: tag.toList ∧ ∃ binding, bindings.find? tag = some binding

theorem binds_iff :
    bindings.Binds tag ↔ (startsWith tag Tag.validatePrefix && (bindings.find? tag).isSome) = true := by
  rw [Binds, Bool.and_eq_true, startsWith, List.isPrefixOf_iff_prefix, Option.isSome_iff_exists]

instance (bindings : Bindings) : DecidablePred bindings.Binds := fun _ => decidable_of_iff' _ binds_iff

/-- What the validator of a tag says about a value. One that is not registered, or cannot read its
setting, refuses every value. -/
inductive Says (bindings : Bindings) (model template : Document) (tag value : String) : Verdict → Prop
  | answers {binding : Binding} {validator : Validator} {test : ValueTest}
      (bound : bindings.find? tag = some binding) (asks : binding.AsksFor validator test) :
      Says bindings model template tag value (binding.answer validator test model template value)
  | unusable {binding : Binding} {validator : Validator} {cause : ConfigError}
      (bound : bindings.find? tag = some binding)
      (registered : Validator.ofName? binding.validator = some validator)
      (fault : validator.test? binding.config = .error cause) :
      Says bindings model template tag value
        ⟨false, validator.name, Validator.home, binding.description.getD validator.name, none⟩
  | unregistered {binding : Binding} (bound : bindings.find? tag = some binding)
      (unknown : Validator.ofName? binding.validator = none) :
      Says bindings model template tag value
        (.miss binding.validator ("validator " ++ Chars.quoted binding.validator ++ " is not registered"))

theorem says_judge (bound : (bindings.find? tag).isSome) :
    bindings.Says model template tag value (bindings.judge tag model template value) := by
  obtain ⟨binding, bound⟩ := Option.isSome_iff_exists.mp bound
  cases registered : Validator.ofName? binding.validator with
  | none =>
      simp only [judge, bound, registered]
      exact .unregistered bound registered
  | some validator =>
      cases setting : validator.test? binding.config with
      | error cause =>
          simp only [judge, bound, registered, Validator.passes, setting]
          exact .unusable bound registered setting
      | ok test =>
          simp only [judge, bound, registered, Validator.passes, setting]
          exact .answers bound ⟨registered, setting⟩

end Bindings

namespace Rule

variable {scene : Scene} {key : KeyId} {value : String}

theorem boundTags_eq (bindings : Bindings) (key : Key) :
    boundTags bindings key = key.tags.filter (bindings.Binds ·) := by
  rw [boundTags, Key.tagsWithPrefix, List.filter_filter]
  refine List.filter_congr fun tag _ => ?_
  rw [Bool.and_comm, Bool.eq_iff_iff, decide_eq_true_iff, Bindings.binds_iff]

/-- Validators look at the key. -/
structure LooksAt (scene : Scene) (key : KeyId) : Prop where
  isKey : key ∈ scene.model.keyIds
  bound : ∃ tag ∈ (scene.model.key key).tags, scene.bindings.Binds tag
  filled : ¬ ((scene.model.valueOf key).isEmptyValue ∧ Tag.notMandatory ∈ (scene.model.key key).tags)

theorem looksAt_iff : LooksAt scene key ↔ key ∈ scene.model.keyIds.filter (isJudged scene) := by
  have bound : (∃ tag ∈ (scene.model.key key).tags, scene.bindings.Binds tag) ↔
      (boundTags scene.bindings (scene.model.key key)).isEmpty = false := by
    simp [boundTags_eq]
  have filled : ¬ ((scene.model.valueOf key).isEmptyValue ∧
        Tag.notMandatory ∈ (scene.model.key key).tags) ↔
      ((scene.model.valueOf key).isEmptyValue && (scene.model.key key).hasTag Tag.notMandatory) = false := by
    simp [Key.hasTag]
  rw [List.mem_filter, isJudged, Bool.and_eq_true, Bool.not_eq_true', Bool.not_eq_true', ← bound, ← filled]
  exact ⟨fun looked => ⟨looked.isKey, looked.bound, looked.filled⟩,
    fun judged => ⟨judged.1, judged.2.1, judged.2.2⟩⟩

/-- The texts of the key, or the empty one where it has none, are judged under all its bound tags, in the
order of both. -/
structure Judged.Covers (judged : Judged) (scene : Scene) : Prop where
  texts : judged.said.map (·.1) =
    if scene.model.textsOf judged.key = [] then [""] else scene.model.textsOf judged.key
  verdicts : ∀ entry ∈ judged.said,
    List.Forall₂ (fun tag verdict => scene.bindings.Says scene.model scene.template tag entry.1 verdict)
      ((scene.model.key judged.key).tags.filter (scene.bindings.Binds ·)) entry.2

/-- The issue names the key and the value, and its fix the verdicts that fail. -/
structure Blames (scene : Scene) (key : KeyId) (value : String) (verdicts : List Verdict)
    (issue : Issue) : Prop where
  data : issue.data = some (.object [("key", .string (scene.model.key key).name), ("value", .string value)])
  fixData : issue.fixData = some (.array ((verdicts.filter fun verdict => !verdict.passed).map Verdict.toJson))

/-- What is reported of a value. -/
inductive ComesTo (scene : Scene) (key : KeyId) (value : String) (verdicts : List Verdict) :
    Option Issue → Prop
  | passed (all : ∀ verdict ∈ verdicts, verdict.passed) : ComesTo scene key value verdicts none
  | doubted {issue : Issue} (passes : ∃ verdict ∈ verdicts, verdict.passed)
      (fails : ∃ verdict ∈ verdicts, ¬ verdict.passed) (severity : issue.severity = .info)
      (kind : issue.kind = "valid-with-warning") (blames : Blames scene key value verdicts issue) :
      ComesTo scene key value verdicts (some issue)
  | refused {issue : Issue} (fails : ∀ verdict ∈ verdicts, ¬ verdict.passed) (given : verdicts ≠ [])
      (severity : issue.severity = .error) (kind : issue.kind = "invalid-value")
      (blames : Blames scene key value verdicts issue) : ComesTo scene key value verdicts (some issue)

theorem comesTo_refusal? (scene : Scene) (key : KeyId) (value : String) (verdicts : List Verdict) :
    ComesTo scene key value verdicts (refusal? scene key value verdicts) := by
  let failed := verdicts.filter fun verdict => !verdict.passed
  rw [refusal?]
  by_cases noneFailed : failed = []
  · rw [if_pos (List.isEmpty_iff.mpr noneFailed)]
    refine .passed fun verdict member => ?_
    simpa using List.filter_eq_nil_iff.mp noneFailed verdict member
  · rw [if_neg (mt List.isEmpty_iff.mp noneFailed)]
    obtain ⟨verdict, inFailed⟩ := List.exists_mem_of_ne_nil _ noneFailed
    obtain ⟨member, fails⟩ := List.mem_filter.mp inFailed
    rw [Bool.not_eq_true'] at fails
    by_cases allFailed : failed.length = verdicts.length
    · rw [if_pos allFailed]
      have refused := List.length_filter_eq_length_iff.mp allFailed
      refine .refused (fun verdict member => ?_) (List.ne_nil_of_mem member) rfl rfl ⟨rfl, rfl⟩
      simpa using refused verdict member
    · rw [if_neg allFailed]
      have passes : ∃ verdict ∈ verdicts, verdict.passed := by
        by_contra nonePasses
        refine allFailed (List.length_filter_eq_length_iff.mpr fun verdict member => ?_)
        simpa using fun passed => nonePasses ⟨verdict, member, passed⟩
      exact .doubted passes ⟨verdict, member, by simp [fails]⟩ rfl rfl ⟨rfl, rfl⟩

/-- Every key that was looked at has its verdicts, and nothing else has changed. -/
structure Recorded (scene : Scene) (found : List Judged) (written : Document) : Prop where
  source : written.source = scene.model.source
  verdicts : ∀ judged ∈ found, (written.key judged.key).property? Property.validation =
    some (.array ((judged.said.flatMap (·.2)).map Verdict.toJson))
  others : ∀ key, (∀ judged ∈ found, judged.key ≠ key) → written.key key = scene.model.key key
  name : ∀ key, (written.key key).name = (scene.model.key key).name
  tags : ∀ key, (written.key key).tags = (scene.model.key key).tags
  property? : ∀ key name, name ≠ Property.validation →
    (written.key key).property? name = (scene.model.key key).property? name

/-- The keys that validators look at, in order, with what they say. -/
def judgedKeys (scene : Scene) : List Judged :=
  (scene.model.keyIds.filter (isJudged scene)).map (judgeKey scene)

theorem keys_judgedKeys (scene : Scene) :
    (judgedKeys scene).map (·.key) = scene.model.keyIds.filter (isJudged scene) := by
  rw [judgedKeys, List.map_map]
  exact List.map_id _

theorem covers_judgeKey (scene : Scene) (key : KeyId) : (judgeKey scene key).Covers scene where
  texts := by
    have values : ((judgeKey scene key).said.map (·.1)) = judgedValues scene.model key := by
      rw [judgeKey, List.map_map]
      exact List.map_id _
    rw [values, judgedValues, judgeKey]
    cases scene.model.textsOf key <;> rfl
  verdicts entry member := by
    obtain ⟨value, _, rfl⟩ := List.mem_map.mp member
    rw [← boundTags_eq, verdicts, List.forall₂_map_right_iff]
    exact List.forall₂_same.mpr fun tag bound => Bindings.says_judge (isSome_of_mem_boundTags bound)

/-- What was said of each text, with its key. -/
def allSaid (found : List Judged) : List (KeyId × String × List Verdict) :=
  found.flatMap fun judged => judged.said.map (judged.key, ·)

theorem issues_findInvalid (scene : Scene) : (findInvalid scene).issues =
    (allSaid (judgedKeys scene)).filterMap fun entry => refusal? scene entry.1 entry.2.1 entry.2.2 := by
  rw [allSaid, List.filterMap_flatMap, judgedKeys, List.flatMap_map, findInvalid]
  refine List.flatMap_congr fun key _ => ?_
  rw [List.filterMap_map, ← issues_judgeKey]
  rfl

theorem exists_reports (scene : Scene) :
    ∃ reports, List.Forall₂ (fun entry report => ComesTo scene entry.1 entry.2.1 entry.2.2 report)
        (allSaid (judgedKeys scene)) reports ∧
      (findInvalid scene).issues = reports.reduceOption := by
  let report (entry : KeyId × String × List Verdict) := refusal? scene entry.1 entry.2.1 entry.2.2
  refine ⟨(allSaid (judgedKeys scene)).map report, ?_, ?_⟩
  · rw [List.forall₂_map_right_iff]
    exact List.forall₂_same.mpr fun entry _ => comesTo_refusal? scene entry.1 entry.2.1 entry.2.2
  · rw [issues_findInvalid, List.reduceOption, List.filterMap_map]
    rfl

theorem annotations_findInvalid (scene : Scene) :
    (findInvalid scene).annotations = (judgedKeys scene).map Judged.record := by
  rw [findInvalid, judgedKeys, List.map_map]
  exact List.map_congr_left fun key _ => (record_judgeKey key).symm

theorem recorded_findInvalid (scene : Scene) :
    Recorded scene (judgedKeys scene) ((findInvalid scene).annotate scene.model) := by
  have written : (findInvalid scene).annotate scene.model =
      scene.model.written ((judgedKeys scene).map Judged.record) := by
    rw [← annotations_findInvalid]
    rfl
  rw [written]
  have annotated : scene.model.Annotates [Property.validation]
      (scene.model.written ((judgedKeys scene).map Judged.record)) := by
    refine Document.annotates_written fun note member => ?_
    obtain ⟨judged, _, rfl⟩ := List.mem_map.mp member
    exact List.mem_singleton_self _
  refine ⟨annotated.source, fun judged member => ?_, fun key unseen => ?_, fun key => (annotated.keys key).name,
    Document.tags_key_written _, fun key name other => ?_⟩
  · obtain ⟨key, isJudged, rfl⟩ := List.mem_map.mp member
    refine Document.property?_written (List.mem_filter.mp isJudged).1 (List.mem_map_of_mem member) ?_
    -- What is noted depends on the key alone.
    intro note listed sameKey _
    obtain ⟨other, isOther, rfl⟩ := List.mem_map.mp listed
    obtain ⟨otherKey, _, rfl⟩ := List.mem_map.mp isOther
    exact congrArg (fun key => (judgeKey scene key).record.value) sameKey
  · refine Document.key_written_of_unmarked fun note member => ?_
    obtain ⟨judged, isJudged, rfl⟩ := List.mem_map.mp member
    exact unseen judged isJudged
  · exact (annotated.keys key).property? name (mt List.mem_singleton.mp other)

end Rule

end ThreatModel
