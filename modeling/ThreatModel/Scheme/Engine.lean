import ThreatModel.Scheme.PostProcessor
import ThreatModel.Scheme.Query

/-!
Mapping content by a scheme. `check` finds what is wrong with a scheme before any content is seen;
`interpret` answers for every scheme and every content.
-/

namespace ThreatModel

/-- The queries and post-processors that a scheme may name. -/
structure Registry where
  queries : List Query
  processors : List PostProcessor

namespace Registry

/-- Everything there is. -/
def builtin : Registry := ⟨Query.all, PostProcessor.all⟩

/-- The registry with only the members of the names given. -/
def restrict (registry : Registry) (names : List String) : Registry :=
  ⟨registry.queries.filter fun query => names.contains query.name,
    registry.processors.filter fun processor => names.contains processor.name⟩

def query? (registry : Registry) (name : String) : Option Query :=
  registry.queries.find? (·.name == name)

def processor? (registry : Registry) (name : String) : Option PostProcessor :=
  registry.processors.find? (·.name == name)

def checkQuery (registry : Registry) (spec : QuerySpec) : Except ConfigError Unit :=
  match registry.query? spec.name with
  | some query => query.check spec.params
  | none => .error (.unknownQuery spec.name)

def checkProcessor (registry : Registry) (spec : String × Json) : Except ConfigError Unit :=
  match registry.processor? spec.1 with
  | some processor => processor.check spec.2
  | none => .error (.unknownPostProcessor spec.1)

/-- The post-processors of an output, if there is one. -/
def processorsOf (output : Option OutputSpec) : List (String × Json) :=
  (output.map OutputSpec.processors).getD []

mutual

/-- The first fault of a scheme: of its queries, then of its post-processors, then of the
definitions inside. -/
def check (registry : Registry) : ValueDef → Except ConfigError Unit
  | ⟨getData, mapData, output⟩ => do
      getData.queries.forM registry.checkQuery
      (processorsOf output).forM registry.checkProcessor
      checkMapData registry mapData

def checkMapData (registry : Registry) : Option (List (KeySpec × ValueDef)) →
    Except ConfigError Unit
  | none => .ok ()
  | some entries => checkEntries registry entries

def checkEntries (registry : Registry) : List (KeySpec × ValueDef) → Except ConfigError Unit
  | [] => .ok ()
  | (_, value) :: rest => do
      check registry value
      checkEntries registry rest

end

/-- Run a query; one that is not registered yields nothing. -/
def runQuery (registry : Registry) (input : Node) (spec : QuerySpec) : Node :=
  match registry.query? spec.name with
  | some query => query.apply spec.params input
  | none => .null

/-- Run queries, each on what the one before yields. -/
def runQueries (registry : Registry) (getData : GetData) (input : Node) : Node :=
  getData.queries.foldl registry.runQuery input

/-- Run a post-processor; one that is not registered is skipped. -/
def runProcessor (registry : Registry) (output : Node) (spec : String × Json) : Node :=
  match registry.processor? spec.1 with
  | some processor => processor.apply spec.2 output
  | none => output

/-- A node in the shape that an output asks for: a dictionary is the first of a list, and a list
holds the node if it is none itself. -/
def inShape : Option OutputShape → Node → Node
  | some .dict, .list items => items.head?.getD .null
  | some .list, .list items => .list items
  | some .list, .null => .list []
  | some .list, node => .list [node]
  | _, node => node

/-- Run the post-processors, then bring the result into shape. -/
def finish (registry : Registry) (output : Option OutputSpec) (data : Node) : Node :=
  match output with
  | none => data
  | some output => inShape output.shape (output.processors.foldl registry.runProcessor data)

/-- Insert a value under the key that was declared for it. The provenance of a text moves to the
key. -/
def insertValue (entries : Mapping) (key : KeySpec) (value : Node) : Mapping :=
  match value with
  | .text leaf =>
      if leaf.hasProvenance then
        Mapping.insert entries (key.toKey.mergeProperties leaf.provenance) (.text leaf.plain)
      else Mapping.insert entries key.toKey (.text leaf)
  | value => Mapping.insert entries key.toKey value

mutual

/-- The node that a scheme makes of content. Where the queries yield nothing, so does the scheme,
if it has entries to build. -/
def interpret (registry : Registry) : ValueDef → Node → Node
  | ⟨getData, mapData, output⟩, input =>
      interpretMapData registry output mapData (registry.runQueries getData input)

def interpretMapData (registry : Registry) (output : Option OutputSpec) :
    Option (List (KeySpec × ValueDef)) → Node → Node
  | none, data => registry.finish output data
  | some entries, data =>
      match data with
      | .null => .null
      | .list items =>
          registry.finish output
            (.list (items.map fun item => .map (interpretEntries registry entries [] item)))
      | data => registry.finish output (.map (interpretEntries registry entries [] data))

/-- The entries built from one element, put after those that are done. -/
def interpretEntries (registry : Registry) : List (KeySpec × ValueDef) → Mapping → Node → Mapping
  | [], done, _ => done
  | (key, value) :: rest, done, input =>
      interpretEntries registry rest (insertValue done key (interpret registry value input)) input

end

end Registry

end ThreatModel
