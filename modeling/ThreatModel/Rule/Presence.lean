import ThreatModel.Rule.Basic

/-!
Fields that need a value. The mandatory rule asks for a value everywhere, or under keys marked for
it; the conditional rule asks for one where another field of the row has a value. Absent values,
blank texts, and lists and mappings of nothing count as no value.
-/

namespace ThreatModel.Rule

/-- The setting of the mandatory rule. -/
structure MandatorySetting where
  /-- Keys need a value even if no tag says so. -/
  everywhere : Bool
  /-- Tags of keys that need none, beside those of the conventions. -/
  exceptions : List String
deriving DecidableEq, Repr

namespace MandatorySetting

def read? (config : Json) : Option MandatorySetting := do
  let record ← ruleFields? ["default", "exceptions"] config
  let everywhere ← Source.withDefault? record "default" Source.bool? true
  let exceptions ← Source.withDefault? record "exceptions" Source.strings? []
  some ⟨everywhere, exceptions⟩

/-- The key needs a value. -/
def requires (setting : MandatorySetting) (conventions : Conventions) (key : Key) : Bool :=
  !(key.tags.any fun tag =>
      conventions.mandatoryExceptions.contains tag || setting.exceptions.contains tag) &&
    (setting.everywhere || key.hasTag Tag.mandatory)

end MandatorySetting

/-- The kind of issues that the mandatory rule finds. -/
def missingMandatory : String := "missing-mandatory"

/-- A value is missing. -/
def missingIssue (scene : Scene) (key : KeyId) : Issue :=
  scene.issueAt key .error missingMandatory [("field", scene.model.label key)]
    (.object [("key", .string (scene.model.key key).name)]) none

/-- The keys that need a value and have none. -/
def missingKeys (scene : Scene) (setting : MandatorySetting) : List KeyId :=
  scene.model.keyIds.filter fun key =>
    setting.requires scene.conventions (scene.model.key key) &&
      (scene.model.valueOf key).isEmptyValue

def findMandatory (scene : Scene) (config : Json) : Findings :=
  match MandatorySetting.read? config with
  | some setting => .ofIssues ((missingKeys scene setting).map (missingIssue scene))
  | none => .empty

/-- A field that needs a value where another one of its row has a value, or has the value `expected`
if there is one. Fields are named by tag or by name. -/
structure Condition where
  field : String
  dependsOn : String
  expected : Option String
deriving DecidableEq, Repr

/-- The key carries the tag or has the name. -/
def selects (selector : String) (key : Key) : Bool :=
  key.hasTag selector || key.name == selector

namespace Condition

def read? (source : Source) : Option Condition := do
  let record ← source.record? ["tag", "depends-on", "depends-on-value"] true
  let field ← Source.required? record "tag" Source.string?
  let dependsOn ← Source.required? record "depends-on" Source.string?
  let expected ←
    Source.withDefault? record "depends-on-value" (Source.optional? Source.string?) none
  some ⟨field, dependsOn, expected⟩

/-- The conditions that a setting lists. -/
def readAll? : Json → Option (List Condition)
  | .null => some []
  | config => (Source.json config).listOf? read?

/-- The first other field of the row that the condition depends on. -/
def dependency? (condition : Condition) (doc : Document) (key : KeyId) : Option (KeyId × Item) :=
  (doc.entriesOf (doc.ownerOf key)).find? fun entry =>
    entry.1 != key && selects condition.dependsOn (doc.key entry.1)

/-- The dependency asks for the field. -/
def fires (condition : Condition) (dependency : Item) : Bool :=
  match condition.expected with
  | some expected => normalise (String.intercalate "\n" dependency.texts) == normalise expected
  | none => !dependency.isEmptyValue

/-- The issue at a field without a value, if the condition asks for one. -/
def issue? (condition : Condition) (scene : Scene) (key : KeyId) : Option Issue := do
  let doc := scene.model
  let (other, item) ← condition.dependency? doc key
  let actual := String.intercalate "\n" item.texts
  if condition.fires item then
    some (scene.issueAt key .error "missing-conditional-mandatory"
      [("field", doc.label key), ("depends-on", doc.label other),
        ("depends-on-value", condition.expected.getD actual)]
      (.object [("key", .string (doc.key key).name), ("depends-on", .string (doc.key other).name),
        ("depends-on-value", .string actual)]) none)
  else none

/-- The fields of a condition that have no value. -/
def emptyFields (condition : Condition) (doc : Document) : List KeyId :=
  doc.keyIds.filter fun key =>
    selects condition.field (doc.key key) && (doc.valueOf key).isEmptyValue

end Condition

def findConditional (scene : Scene) (config : Json) : Findings :=
  .ofIssues (((Condition.readAll? config).getD []).flatMap fun condition =>
    (condition.emptyFields scene.model).filterMap (condition.issue? scene))

end ThreatModel.Rule
