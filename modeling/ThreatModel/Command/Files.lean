import ThreatModel.ConfigError
import ThreatModel.Json.Reader
import ThreatModel.Scheme.Engine
import ThreatModel.Verification.Basic
import ThreatModel.Yaml.Reader

/-!
Loading schemes, setups and content from files. Schemes and setups are YAML, content is JSON.
-/

namespace ThreatModel.Command

/-- What stands at a path. -/
inductive FileState
  | absent
  /-- Something that cannot be read as text, such as a directory. -/
  | unreadable
  | text (content : String)
deriving DecidableEq, Repr

/-- What stands at every path. -/
abbrev Files := String → FileState

/-- Why a command failed: where, and the fault of the configuration if that is the cause. -/
structure Failure where
  context : String
  cause : Option ConfigError
deriving DecidableEq, Repr

/-- A fault at a place. -/
def atPlace (context : String) : Except ConfigError α → Except Failure α
  | .ok value => .ok value
  | .error cause => .error ⟨context, some cause⟩

namespace Files

def read (files : Files) (path : String) : Except ConfigError String :=
  match files path with
  | .text content => .ok content
  | .absent => .error (.fileNotFound path)
  | .unreadable => .error (.unreadableFile path)

/-- Load a value of a type from a YAML file. -/
def loadYaml (files : Files) (path : String) (read? : Source → Option α) :
    Except ConfigError α := do
  let content ← files.read path
  match (Yaml.parse? content).bind read? with
  | some value => .ok value
  | none => .error (.unreadableYaml path)

/-- Load extracted content. -/
def loadContent (files : Files) (path : String) : Except ConfigError Node := do
  let content ← files.read path
  match Json.parse? content with
  | some value => .ok (.ofJson value)
  | none => .error (.unreadableJson path)

/-- Load a scheme and check it. -/
def loadScheme (files : Files) (path : String) : Except ConfigError ValueDef := do
  let scheme ← files.loadYaml path ValueDef.ofSource?
  Registry.builtin.check scheme
  .ok scheme

/-- Load a setup and check it. -/
def loadSetup (files : Files) (path : String) : Except ConfigError Setup := do
  let setup ← files.loadYaml path Setup.ofSource?
  setup.check
  .ok setup

/-- Map the content of a file by the scheme of another. -/
def mapContent (files : Files) (scheme input : String) : Except Failure Node := do
  let definition ← atPlace ("invalid scheme " ++ scheme) (files.loadScheme scheme)
  let content ← atPlace ("failed to load input " ++ input) (files.loadContent input)
  .ok (Registry.builtin.interpret definition content)

end Files

end ThreatModel.Command
