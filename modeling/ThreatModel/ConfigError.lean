import ThreatModel.Chars.Quoted

/-!
What can be wrong with a configuration, and the message of each cause. A document is never the
cause: its faults are issues.
-/

namespace ThreatModel

open Chars (quoted)

inductive ConfigError
  /-- A scheme names a query that is not registered. -/
  | unknownQuery (name : String)
  /-- An output names a post-processor that is not registered. -/
  | unknownPostProcessor (name : String)
  /-- The configuration lists a rule that is not registered. -/
  | unknownRule (name : String)
  /-- A tag is bound to a validator that is not registered. -/
  | unknownValidator (tag validator : String)
  /-- A required key is absent. -/
  | missingKey (context key : String)
  /-- A value is not what is expected. -/
  | invalid (context reason : String)
  /-- A value does not have the shape of its type. -/
  | malformed (context : String)
  /-- A pattern does not compile. -/
  | badPattern (context pattern : String)
  /-- A file does not hold a configuration in YAML. -/
  | unreadableYaml (path : String)
  /-- A file does not hold JSON. -/
  | unreadableJson (path : String)
  | fileNotFound (path : String)
  /-- A file cannot be read. -/
  | unreadableFile (path : String)
deriving DecidableEq, Repr

def ConfigError.message : ConfigError → String
  | .unknownQuery name => "unknown query type " ++ quoted name
  | .unknownPostProcessor name => "unknown post-processor " ++ quoted name
  | .unknownRule name => "unknown verifier " ++ quoted name
  | .unknownValidator tag validator =>
      "validator tag " ++ quoted tag ++ " refers to unknown validator " ++ quoted validator
  | .missingKey context key => context ++ ": missing required key " ++ quoted key
  | .invalid context reason => context ++ ": " ++ reason
  | .malformed context => context ++ ": the value does not have the expected shape"
  | .badPattern context pattern => context ++ ": invalid pattern " ++ quoted pattern
  | .unreadableYaml path => "failed to parse YAML at " ++ path
  | .unreadableJson path => "failed to parse JSON at " ++ path
  | .fileNotFound path => "required file not found: " ++ path
  | .unreadableFile path => "I/O error at " ++ path

/-- What ends a run. -/
inductive RunError
  | configuration (cause : ConfigError)
  | serialization (reason : String)
deriving DecidableEq, Repr

def RunError.message : RunError → String
  | .configuration cause => "configuration error: " ++ cause.message
  | .serialization reason => "serialization error: " ++ reason

end ThreatModel
