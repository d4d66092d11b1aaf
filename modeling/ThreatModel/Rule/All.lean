import ThreatModel.Rule.Coverage
import ThreatModel.Rule.Presence
import ThreatModel.Rule.Resolution
import ThreatModel.Rule.Uniqueness
import ThreatModel.Rule.Validity

/-!
The rules by name. `check` says whether a rule can use its setting; `find` answers for any setting.
-/

namespace ThreatModel

inductive Rule
  | mandatory
  | conditionalMandatory
  | uniqueness
  | referenceExistence
  | valueValidity
  | assetCoverage
deriving DecidableEq, Repr

namespace Rule

def all : List Rule :=
  [.mandatory, .conditionalMandatory, .uniqueness, .referenceExistence, .valueValidity,
    .assetCoverage]

def name : Rule → String
  | .mandatory => "mandatory"
  | .conditionalMandatory => "conditional-mandatory"
  | .uniqueness => "uniqueness"
  | .referenceExistence => "reference-existence"
  | .valueValidity => "value-validity"
  | .assetCoverage => "asset-coverage"

def ofName? (name : String) : Option Rule :=
  all.find? (·.name == name)

/-- The rule can use a setting. -/
def accepts (rule : Rule) (config : Json) : Bool :=
  match rule with
  | .mandatory => (MandatorySetting.read? config).isSome
  | .conditionalMandatory => (Condition.readAll? config).isSome
  | .uniqueness => (readFamily? config).isSome
  | .assetCoverage => (readScenarios? config).isSome
  | .referenceExistence => true
  | .valueValidity => true

def check (rule : Rule) (config : Json) : Except ConfigError Unit :=
  if rule.accepts config then .ok () else .error (.malformed rule.name)

/-- What a rule finds in a scene. -/
def find (rule : Rule) (scene : Scene) (config : Json) : Findings :=
  match rule with
  | .mandatory => findMandatory scene config
  | .conditionalMandatory => findConditional scene config
  | .uniqueness => findDuplicates scene config
  | .referenceExistence => findUnresolved scene
  | .valueValidity => findInvalid scene
  | .assetCoverage => findUncovered scene config

end Rule

end ThreatModel
