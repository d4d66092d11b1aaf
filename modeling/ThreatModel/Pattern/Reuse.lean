import ThreatModel.Scheme.Query
import ThreatModel.Verification.Validator

/-!
Queries and validators that reuse their patterns. Each owns a store, out of which it takes the patterns it
has compiled before, whether it was asked to check its parameters or to answer for an input.
-/

namespace ThreatModel

/-- A computation over a store of patterns, which it may add to. -/
abbrev Reusing := StateM PatternStore

/-- The compiled pattern of a source. -/
def PatternStore.compiled? (source : String) : Reusing (Option Pattern) := fun store => store.get source

open PatternStore (compiled?)

namespace Query

/-- What a query is asked for. -/
inductive Request
  | check (params : Params)
  | apply (params : Params) (input : Node)

inductive Answer
  | checked (result : Except ConfigError Unit)
  | output (node : Node)

/-- The answer of a query that keeps nothing. -/
def answer (query : Query) : Request → Answer
  | .check params => .checked (query.check params)
  | .apply params input => .output (query.apply params input)

/-- A pattern that has to be there and to compile. -/
def requireReusing (query : Query) (params : Params) : Reusing (Except ConfigError Unit) :=
  match query.requireString params "pattern" with
  | .error fault => return .error fault
  | .ok source => do
      match ← compiled? source with
      | some _ => return .ok ()
      | none => return .error (.badPattern query.context source)

def checkReusing (query : Query) (params : Params) : Reusing (Except ConfigError Unit) :=
  match query with
  | .regexSplit | .regexMatch => query.requireReusing params
  | .regexReplace => do
      match ← query.requireReusing params with
      | .error fault => return .error fault
      | .ok _ => return (query.requireString params "replacement").map fun _ => ()
  | query => return query.check params

/-- Work with the pattern of the parameters; without one that compiles, pass the input on. -/
def withPattern (params : Params) (input : Node) (work : Pattern → Node) : Reusing Node :=
  match params.string? "pattern" with
  | none => return input
  | some source => do
      match ← compiled? source with
      | some pattern => return work pattern
      | none => return input

def applyReusing (query : Query) (params : Params) (input : Node) : Reusing Node :=
  match query with
  | .regexSplit => withPattern params input (applySplit · input)
  | .regexMatch =>
      withPattern params input fun pattern =>
        perText (matchedGroup pattern ((params.nat? "group").getD 0)) input
  | .regexReplace =>
      withPattern params input fun pattern =>
        let replacement := (params.string? "replacement").getD ""
        perText (fun leaf => .text (leaf.map (pattern.replaceAll · replacement))) input
  | query => return query.apply params input

def answerReusing (query : Query) : Request → Reusing Answer
  | .check params => return .checked (← query.checkReusing params)
  | .apply params input => return .output (← query.applyReusing params input)

end Query

namespace Validator

/-- What a validator is asked for. -/
inductive Request
  | check (config : Json)
  | validate (config : Json) (model template : Document) (value : String)

inductive Answer
  | checked (result : Except ConfigError Unit)
  | verdict (passed : Bool)

/-- The answer of a validator that keeps nothing. -/
def answer (validator : Validator) : Request → Answer
  | .check config => .checked ((validator.test? config).map fun _ => ())
  | .validate config model template value => .verdict (validator.passes config model template value)

/-- The source of the pattern that a setting names. -/
def patternSource? (config : Json) : Option String := do
  let record ← settingFields? ["pattern"] config
  Source.required? record "pattern" Source.string?

def testReusing (validator : Validator) (config : Json) : Reusing (Except ConfigError ValueTest) :=
  match validator with
  | .regex =>
      match validator.shaped (patternSource? config) with
      | .error fault => return .error fault
      | .ok source => do
          match ← compiled? source with
          | some compiled => return .ok (.pattern compiled)
          | none => return .error (.badPattern validator.name source)
  | validator => return validator.test? config

def answerReusing (validator : Validator) : Request → Reusing Answer
  | .check config => return .checked ((← validator.testReusing config).map fun _ => ())
  | .validate config model template value => do
      match ← validator.testReusing config with
      | .ok test => return .verdict (test.passes model template value)
      | .error _ => return .verdict false

end Validator

end ThreatModel
