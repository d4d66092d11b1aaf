import ThreatModel.Document.TagTable
import ThreatModel.Rule.All

/-!
Setups: what a verification is configured with. Rules run in the order in which the setup lists
them.
-/

namespace ThreatModel

/-- An entry for a rule. -/
structure RuleEntry where
  enabled : Bool
  config : Json
deriving Inhabited

structure Setup where
  conventions : Conventions
  tags : TagTable
  bindings : Bindings
  rules : List (String × RuleEntry)
  /-- Templates in place of the standard ones. -/
  wording : Wording

/-- Put an entry: a name that is present keeps its place and takes the value. -/
def putNamed (entries : List (String × α)) (name : String) (value : α) : List (String × α) :=
  if entries.any (·.1 == name) then
    entries.map fun entry => if entry.1 == name then (name, value) else entry
  else entries ++ [(name, value)]

/-- Read the members of an object alike; of a repeated name the last value counts. -/
def readNamed? (read : Source → Option α) (source : Source) : Option (List (String × α)) := do
  let entries ← (← source.members?).mapM fun member => (read member.2).map (member.1, ·)
  some (entries.foldl (fun done entry => putNamed done entry.1 entry.2) [])

/-- A value of any kind. -/
def readAny? (source : Source) : Option Json := some source.settle

namespace Binding

def read? (source : Source) : Option Binding := do
  let record ← source.record? ["validator", "config", "description"] true
  let validator ← Source.required? record "validator" Source.string?
  let config ← Source.withDefault? record "config" readAny? .null
  let description ←
    Source.withDefault? record "description" (Source.optional? Source.string?) none
  some ⟨validator, config, description⟩

def toJson (binding : Binding) : Json :=
  .object ([("validator", Json.string binding.validator), ("config", binding.config)] ++
    (binding.description.map fun text => ("description", Json.string text)).toList)

end Binding

namespace RuleEntry

def read? (source : Source) : Option RuleEntry := do
  let record ← source.record? ["enabled", "config"] true
  let enabled ← Source.withDefault? record "enabled" Source.bool? true
  let config ← Source.withDefault? record "config" readAny? .null
  some ⟨enabled, config⟩

def toJson (entry : RuleEntry) : Json :=
  .object [("enabled", .bool entry.enabled), ("config", entry.config)]

end RuleEntry

namespace TagTable

def read? (source : Source) : Option TagTable :=
  (readNamed? Source.strings? source).map fun entries => ⟨.ofList entries⟩

def toJson (table : TagTable) : Json :=
  .object (table.tags.entries.map fun entry => (entry.1, .ofStrings entry.2))

end TagTable

namespace Setup

/-- A setup that lists no rules. -/
def standard : Setup := ⟨.standard, .empty, [], [], .empty⟩

/-- Read a setup. Names that mean nothing are refused. -/
def ofSource? (source : Source) : Option Setup := do
  let record ← source.record? ["common", "tags", "validators", "verifiers", "texts"] true
  let conventions ← Source.withDefault? record "common" Conventions.read? .standard
  let tags ← Source.withDefault? record "tags" TagTable.read? .empty
  let bindings ← Source.withDefault? record "validators" (readNamed? Binding.read?) []
  let rules ← Source.withDefault? record "verifiers" (readNamed? RuleEntry.read?) []
  let wording ← Source.withDefault? record "texts" Wording.read? .empty
  some ⟨conventions, tags, bindings, rules, wording⟩

def ofJson? (value : Json) : Option Setup := ofSource? (.json value)

def toJson (setup : Setup) : Json :=
  .object [("common", setup.conventions.toJson), ("tags", setup.tags.toJson),
    ("validators", .object (setup.bindings.map fun entry => (entry.1, entry.2.toJson))),
    ("verifiers", .object (setup.rules.map fun entry => (entry.1, entry.2.toJson))),
    ("texts", setup.wording.toJson)]

/-- Whether an entry can be used: its rule has to exist, and to accept its setting if the entry is
enabled. -/
def checkEntry (entry : String × RuleEntry) : Except ConfigError Unit :=
  match Rule.ofName? entry.1 with
  | none => .error (.unknownRule entry.1)
  | some rule => if entry.2.enabled then rule.check entry.2.config else .ok ()

/-- The first fault of a setup: of its rules, then of its validators. -/
def check (setup : Setup) : Except ConfigError Unit := do
  setup.rules.forM checkEntry
  setup.bindings.check

end Setup

end ThreatModel
