import ThreatModel.Command.Job

/-!
Reading the command line. A subcommand is followed by options, each at most once, whose values stand
in the next argument or after an equals sign. Verbosity may be raised anywhere and any number of
times.
-/

namespace ThreatModel.Command

/-- What the arguments ask for. -/
inductive Request
  | perform (job : Job)
  | help
  | version
  /-- The arguments make no sense. -/
  | refused
deriving DecidableEq, Repr

/-- The options of a subcommand: those with a value and those without. -/
structure OptionTable where
  valued : List String
  flags : List String

def mapOptions : OptionTable := ⟨["scheme", "input"], ["pretty"]⟩

def verifyOptions : OptionTable :=
  ⟨["config", "scheme", "input", "template-input", "model", "template"], ["pretty"]⟩

/-- The options of the program itself. -/
def programOptions : OptionTable := ⟨[], []⟩

/-- Options that were given, with their values. -/
abbrev Given := List (String × String)

/-- What reading one argument tells. -/
inductive Step
  /-- It was an option that needs nothing more. -/
  | done (given : Given)
  /-- It was an option whose value comes next. -/
  | awaits (option : String)
  /-- It was no option. -/
  | word
  | help
  | version
  | refused

/-- Give an option once. -/
def give (given : Given) (option value : String) : Step :=
  if given.any (·.1 == option) then .refused else .done (given ++ [(option, value)])

/-- Letters after one hyphen. Only the program itself has a version. -/
def readLetters (top : Bool) (given : Given) : List Char → Step
  | [] => .done given
  | 'v' :: rest => readLetters top given rest
  | 'h' :: _ => .help
  | 'V' :: _ => if top then .version else .refused
  | _ => .refused

/-- An option after two hyphens, with the value that an equals sign brings. -/
def readLong (top : Bool) (table : OptionTable) (given : Given) (name : String)
    (value : Option String) : Step :=
  if table.valued.contains name then
    match value with
    | some value => if value.isEmpty then .refused else give given name value
    | none => if given.any (·.1 == name) then .refused else .awaits name
  else if value.isSome then .refused
  else if table.flags.contains name then give given name ""
  else if name = "verbose" then .done given
  else if name = "help" then .help
  else if name = "version" ∧ top then .version
  else .refused

/-- Read one argument. -/
def readArgument (top : Bool) (table : OptionTable) (given : Given) (argument : String) : Step :=
  match argument.toList with
  | '-' :: '-' :: rest =>
      let name := rest.takeWhile (· != '=')
      let value := match rest.dropWhile (· != '=') with
        | _ :: value => some (String.ofList value)
        | [] => none
      readLong top table given (.ofList name) value
  | '-' :: letter :: rest => readLetters top given (letter :: rest)
  | _ => .word

/-- An argument that stands as the value of an option. -/
def isValue (argument : String) : Bool :=
  match argument.toList with
  | [] => false
  | ['-'] => true
  | '-' :: _ => false
  | _ => true

/-- Ask for a job, if the options make one. -/
def finish : Option Job → Request
  | some job => .perform job
  | none => .refused

/-- Read the options of a subcommand to the end of the arguments, then build its job. -/
def readOptions (table : OptionTable) (build : Given → Option Job) (given : Given) :
    List String → Request
  | [] => finish (build given)
  | ["--"] => finish (build given)
  | argument :: rest =>
      match readArgument false table given argument with
      | .done given => readOptions table build given rest
      | .awaits option =>
          match rest with
          | value :: rest =>
              if isValue value then readOptions table build (given ++ [(option, value)]) rest
              else .refused
          | [] => .refused
      | .word => .refused
      | .help => .help
      | .version => .refused
      | .refused => .refused

/-- The value of an option. -/
def valueOf? (given : Given) (option : String) : Option String :=
  (given.find? (·.1 == option)).map (·.2)

def buildMap (given : Given) : Option Job := do
  let scheme ← valueOf? given "scheme"
  let input ← valueOf? given "input"
  some (.map ⟨scheme, input, (valueOf? given "pretty").isSome⟩)

/-- A verification has a scheme with both inputs, or a model with a template, but not both a scheme
and a model. -/
def buildVerify (given : Given) : Option Job := do
  let value := valueOf? given
  let config ← value "config"
  let job : VerifyJob := ⟨config, value "scheme", value "input", value "template-input",
    value "model", value "template", (value "pretty").isSome⟩
  let byScheme := job.input.isSome && job.templateInput.isSome
  match job.scheme, job.model with
  | some _, none => if byScheme then some (.verify job) else none
  | none, some _ => if job.template.isSome then some (.verify job) else none
  | _, _ => none

/-- Read the arguments of a subcommand. -/
def readSubcommand (name : String) (arguments : List String) : Request :=
  if name = "map" then readOptions mapOptions buildMap [] arguments
  else if name = "verify" then readOptions verifyOptions buildVerify [] arguments
  else if name = "help" then
    match arguments with
    | [] => .help
    | [topic] => if ["map", "verify", "help"].contains topic then .help else .refused
    | _ => .refused
  else .refused

/-- Read the arguments of the program. -/
def readArguments : List String → Request
  | [] => .refused
  | argument :: rest =>
      match readArgument true programOptions [] argument with
      | .done _ => readArguments rest
      | .word => readSubcommand argument rest
      | .help => .help
      | .version => .version
      | .awaits _ => .refused
      | .refused => .refused

/-- The text that help shows. -/
def usage : String :=
  "Usage: tmv [-v] <COMMAND>\n\n" ++
  "Commands:\n" ++
  "  map     --scheme <SCHEME> --input <INPUT> [--pretty]\n" ++
  "  verify  --config <CONFIG> --scheme <SCHEME> --input <INPUT> --template-input <INPUT>\n" ++
  "          [--pretty]\n" ++
  "  verify  --config <CONFIG> --model <MODEL> --template <TEMPLATE> [--pretty]\n"

/-- Do what a request asks for. -/
def Request.run (request : Request) (files : Files) : Shown :=
  match request with
  | .perform job => job.run files
  | .help => ⟨succeeded, usage⟩
  | .version => ⟨succeeded, "tmv 0.1.0\n"⟩
  | .refused => ⟨failed, ""⟩

/-- The paths that a request may read. -/
def Request.paths : Request → List String
  | .perform job => job.paths
  | _ => []

end ThreatModel.Command
