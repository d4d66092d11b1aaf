import ThreatModel.Settings.Source

/-!
Issues: what verification finds, with where it was found and how to mend it. The written form leaves
out the fields that are absent.
-/

namespace ThreatModel

inductive Severity
  | error
  | warning
  | info
deriving DecidableEq, Repr, Inhabited

def Severity.name : Severity → String
  | .error => "ERROR"
  | .warning => "WARNING"
  | .info => "INFO"

def Severity.all : List Severity := [.error, .warning, .info]

structure Issue where
  severity : Severity
  /-- Which message describes the finding. -/
  kind : String
  table : Option String
  row : Option String
  description : String
  data : Option Json
  fixDescription : Option String
  fixData : Option Json
  /-- The rule that found it. -/
  rule : String
deriving Inhabited

namespace Issue

/-- An issue that says nothing but its kind. -/
def ofKind (severity : Severity) (kind : String) : Issue :=
  ⟨severity, kind, none, none, "", none, none, none, ""⟩

/-- The members of a JSON object that are present. -/
def presentMembers (members : List (String × Option Json)) : List (String × Json) :=
  members.filterMap fun member => member.2.map (member.1, ·)

def toJson (issue : Issue) : Json :=
  .object (presentMembers [
    ("type", some (.string issue.severity.name)),
    ("kind", some (.string issue.kind)),
    ("table", issue.table.map .string),
    ("table-row", issue.row.map .string),
    ("error-description", some (.string issue.description)),
    ("error-data", issue.data),
    ("fix-description", issue.fixDescription.map .string),
    ("fix-data", issue.fixData),
    ("verifier", some (.string issue.rule))])

/-- Any value but null. -/
def someValue? (source : Source) : Option Json :=
  some source.settle

/-- Read an issue back. Null counts as absent, and unknown members are passed over. -/
def ofJson? (value : Json) : Option Issue := do
  let record ← (Source.json value).record?
    ["type", "kind", "table", "table-row", "error-description", "error-data", "fix-description",
      "fix-data", "verifier"] false
  let optionalString := Source.optional? Source.string?
  let optionalValue := Source.optional? someValue?
  some {
    severity := ← Source.required? record "type"
      (Source.choice? (Severity.all.map fun severity => (severity.name, severity)))
    kind := ← Source.required? record "kind" Source.string?
    table := ← Source.withDefault? record "table" optionalString none
    row := ← Source.withDefault? record "table-row" optionalString none
    description := ← Source.required? record "error-description" Source.string?
    data := ← Source.withDefault? record "error-data" optionalValue none
    fixDescription := ← Source.withDefault? record "fix-description" optionalString none
    fixData := ← Source.withDefault? record "fix-data" optionalValue none
    rule := ← Source.withDefault? record "verifier" Source.string? "" }

end Issue

/-- How many issues there are of each severity. -/
structure Summary where
  errors : Nat
  warnings : Nat
  infos : Nat
deriving DecidableEq, Repr

namespace Summary

def ofSeverities (severities : List Severity) : Summary :=
  ⟨severities.count .error, severities.count .warning, severities.count .info⟩

def ofIssues (issues : List Issue) : Summary := ofSeverities (issues.map Issue.severity)

def hasErrors (summary : Summary) : Bool := 0 < summary.errors

def toJson (summary : Summary) : Json :=
  .object [("errors", .ofNat summary.errors), ("warnings", .ofNat summary.warnings),
    ("infos", .ofNat summary.infos)]

end Summary

end ThreatModel
