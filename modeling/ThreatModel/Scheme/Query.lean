import ThreatModel.Chars.Lines
import ThreatModel.Chars.Percent
import ThreatModel.ConfigError
import ThreatModel.Document.Node
import ThreatModel.Pattern.Basic
import ThreatModel.Scheme.Definition

/-!
Queries: the steps that select content. `check` says whether the parameters can be used, and `apply`
answers for every input, with an absent value where the input is of the wrong kind. Text that a
query derives keeps the provenance of the text it came from.
-/

namespace ThreatModel

/-- Parameters by name. -/
abbrev Params := List (String × Json)

inductive Query
  | table
  | list
  | text
  | attribute
  | regexSplit
  | regexMatch
  | regexReplace
  | urlDecode
  | splitLines
deriving DecidableEq, Repr

namespace Params

def string? (params : Params) (name : String) : Option String :=
  (Json.lookup? params name).bind Json.asString?

def nat? (params : Params) (name : String) : Option Nat :=
  (Json.lookup? params name).bind Json.asNat?

/-- True only where the parameter is. -/
def flag (params : Params) (name : String) : Bool :=
  ((Json.lookup? params name).bind Json.asBool?).getD false

/-- The compiled pattern, where there is one that compiles. -/
def pattern? (params : Params) : Option Pattern :=
  (string? params "pattern").bind Pattern.compile?

end Params

namespace Query

def all : List Query :=
  [.table, .list, .text, .attribute, .regexSplit, .regexMatch, .regexReplace, .urlDecode,
    .splitLines]

def name : Query → String
  | .table => "table"
  | .list => "list"
  | .text => "text"
  | .attribute => "attribute"
  | .regexSplit => "regex-split"
  | .regexMatch => "regex-match"
  | .regexReplace => "regex-replace"
  | .urlDecode => "url-decode"
  | .splitLines => "split-lines"

/-- How messages call the query. -/
def context (query : Query) : String := "query " ++ Chars.quoted query.name

/-- A string parameter that has to be there. -/
def requireString (query : Query) (params : Params) (name : String) : Except ConfigError String :=
  match params.string? name with
  | some value => .ok value
  | none => .error (.missingKey query.context name)

/-- A pattern that has to be there and to compile. -/
def requirePattern (query : Query) (params : Params) : Except ConfigError Unit := do
  let pattern ← query.requireString params "pattern"
  if (Pattern.compile? pattern).isSome then .ok ()
  else .error (.badPattern query.context pattern)

/-- Whether the parameters can be used. -/
def check (query : Query) (params : Params) : Except ConfigError Unit :=
  match query with
  | .attribute => do let _ ← query.requireString params "name"
  | .regexSplit => query.requirePattern params
  | .regexMatch => query.requirePattern params
  | .regexReplace => do
      query.requirePattern params
      let _ ← query.requireString params "replacement"
  | _ => .ok ()

mutual

/-- Apply `f` to a text, or to the texts of a list at every depth of lists. -/
def perText (f : Text → Node) : Node → Node
  | .null => .null
  | .text leaf => f leaf
  | .list items => .list (perTextItems f items)
  | .map _ => .null

def perTextItems (f : Text → Node) : List Node → List Node
  | [] => []
  | item :: rest => perText f item :: perTextItems f rest

end

/-- The list a table query reads its rows from. -/
def selectRows (params : Params) (input : Node) : Node :=
  match params.string? "name" with
  | some name =>
      match input with
      | .map entries => (Mapping.get? entries name).getD .null
      | _ => .null
  | none =>
      match params.nat? "index" with
      | some index =>
          match input with
          | .list items => items[index]?.getD .null
          | _ => .null
      | none => input

/-- What a header cell calls its column. -/
def headerName (cell : Node) : String :=
  (cell.rendered?.map fun leaf => Unicode.trim leaf.value).getD ""

/-- A row of cells as a mapping under the names of the header. -/
def underHeader (header : List String) (cells : List Node) : Node :=
  .map (Mapping.ofEntries (header.zipWith (fun name cell => (Key.ofName name, cell)) cells))

/-- A row that is a list, under the header. -/
def rowUnder? (header : List String) : Node → Option Node
  | .list cells => some (underHeader header cells)
  | _ => none

/-- Rows under the header that the first of them is. Rows that are no lists are left out. -/
def withHeader : List Node → Node
  | [] => .list []
  | .list header :: rows => .list (rows.filterMap (rowUnder? (header.map headerName)))
  | _ => .null

def applyTable (params : Params) (input : Node) : Node :=
  match selectRows params input with
  | .list rows => if params.flag "header" then withHeader rows else .list rows
  | _ => .null

/-- One element, or the elements from `start` up to `end`. -/
def applyList (params : Params) : Node → Node
  | .list items =>
      match params.nat? "index" with
      | some index => items[index]?.getD .null
      | none =>
          let stop := min ((params.nat? "end").getD items.length) items.length
          let start := min ((params.nat? "start").getD 0) stop
          .list ((items.take stop).drop start)
  | _ => .null

/-- The parts of a text between matches, without white space around them, empty ones left out. -/
def splitParts (pattern : Pattern) (leaf : Text) : List Node :=
  (((pattern.split leaf.value).map Unicode.trim).filter (!·.isEmpty)).map fun part =>
    .text (leaf.map fun _ => part)

/-- The parts of a text; other elements stay as they are. -/
def splitElement (pattern : Pattern) : Node → List Node
  | .text leaf => splitParts pattern leaf
  | other => [other]

def applySplit (pattern : Pattern) : Node → Node
  | .text leaf => .list (splitParts pattern leaf)
  | .list items => .list (items.flatMap (splitElement pattern))
  | _ => .null

/-- The text of a group in the first match. -/
def matchedGroup (pattern : Pattern) (group : Nat) (leaf : Text) : Node :=
  match pattern.capture? leaf.value group with
  | some found => .text (leaf.map fun _ => found)
  | none => .null

/-- Answer for any input. Without a pattern that compiles, a query that needs one passes its input
on. -/
def apply (query : Query) (params : Params) (input : Node) : Node :=
  match query with
  | .table => applyTable params input
  | .list => applyList params input
  | .text =>
      match input.rendered? with
      | some leaf => .text (leaf.map Unicode.trim)
      | none => .null
  | .attribute =>
      match params.string? "name", input with
      | some name, .map entries => (Mapping.get? entries name).getD .null
      | _, _ => .null
  | .regexSplit =>
      match params.pattern? with
      | some pattern => applySplit pattern input
      | none => input
  | .regexMatch =>
      match params.pattern? with
      | some pattern => perText (matchedGroup pattern ((params.nat? "group").getD 0)) input
      | none => input
  | .regexReplace =>
      match params.pattern? with
      | some pattern =>
          let replacement := (params.string? "replacement").getD ""
          perText (fun leaf => .text (leaf.map (pattern.replaceAll · replacement))) input
      | none => input
  | .urlDecode =>
      let form := params.flag "form"
      perText (fun leaf => .text (leaf.map (Chars.urlDecode form))) input
  | .splitLines =>
      match input.rendered? with
      | some leaf =>
          .list ((Chars.trimmedLines leaf.value).map fun line => .text (leaf.map fun _ => line))
      | none => .null

end Query

end ThreatModel
