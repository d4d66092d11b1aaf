import ThreatModel.Chars.Lines
import ThreatModel.ConfigError
import ThreatModel.Document.Node
import ThreatModel.Settings.Source

/-!
Post-processors: the steps that finish rows. They drop rows, change texts and label columns; what is
no list of rows passes through those that work on rows.
-/

namespace ThreatModel

inductive PostProcessor
  | inheritRowAbove
  | removeEmptyRows
  | valueReplace
  | removeHeaderRow
  | stripWhitespace
deriving DecidableEq, Repr

namespace PostProcessor

def all : List PostProcessor :=
  [.inheritRowAbove, .removeEmptyRows, .valueReplace, .removeHeaderRow, .stripWhitespace]

def name : PostProcessor → String
  | .inheritRowAbove => "inherit-row-above-if-empty"
  | .removeEmptyRows => "remove-empty-rows"
  | .valueReplace => "value-replace"
  | .removeHeaderRow => "remove-header-row"
  | .stripWhitespace => "strip-whitespace"

/-- One name, or the names in a list. -/
def namesIn : Json → List String
  | .string name => [name]
  | .array items => items.filterMap Json.asString?
  | _ => []

/-- A text and what to put in its place. -/
structure Replacement where
  wanted : String
  replacement : String
deriving DecidableEq

/-- The replacements that a setting lists. -/
def replacements? (config : Json) : Option (List Replacement) :=
  (Source.json config).listOf? fun entry => do
    let record ← entry.record? ["match", "replacement"] false
    let wanted ← Source.required? record "match" Source.string?
    let replacement ← Source.required? record "replacement" Source.string?
    some ⟨wanted, replacement⟩

/-- Whether the setting can be used. -/
def check (processor : PostProcessor) (config : Json) : Except ConfigError Unit :=
  match processor with
  | .inheritRowAbove =>
      if (namesIn config).isEmpty then
        .error (.invalid processor.name "expects a key name or a list of key names")
      else .ok ()
  | .valueReplace =>
      if (replacements? config).isSome then .ok () else .error (.malformed processor.name)
  | _ => .ok ()

mutual

/-- Change the texts at every depth; provenance stays. -/
def mapTexts (f : String → String) : Node → Node
  | .null => .null
  | .text leaf => .text (leaf.map f)
  | .list items => .list (mapTextsOfItems f items)
  | .map entries => .map (mapTextsOfEntries f entries)

def mapTextsOfItems (f : String → String) : List Node → List Node
  | [] => []
  | item :: rest => mapTexts f item :: mapTextsOfItems f rest

def mapTextsOfEntries (f : String → String) : List (Key × Node) → List (Key × Node)
  | [] => []
  | (key, value) :: rest => (key, mapTexts f value) :: mapTextsOfEntries f rest

end

/-- The text a row holds under a name. -/
def cellText? (name : String) : Node → Option Text
  | .map entries => (Mapping.get? entries name).bind Node.asText?
  | _ => none

/-- A row with the text under a name replaced. -/
def replaceCell (name : String) (value : Text) : Node → Node
  | .map entries => .map (Mapping.replace entries name (.text value))
  | row => row

/-- Fill blank cells under a name with the last text above that is not blank. -/
def fillDown (name : String) (above : Option Text) : List Node → List Node
  | [] => []
  | row :: rest =>
      match cellText? name row with
      | some cell =>
          if cell.isBlank then
            (match above with
              | some value => replaceCell name value row
              | none => row) :: fillDown name above rest
          else row :: fillDown name (some cell) rest
      | none => row :: fillDown name above rest

/-- A text that is not blank stands under a name that is not ignored. -/
def keepsRow (ignored : List String) : Node → Bool
  | .map entries => entries.any fun entry =>
      !ignored.contains entry.1.name &&
        (match entry.2 with
          | .text leaf => !leaf.isBlank
          | _ => false)
  | _ => true

/-- The first replacement of a text. -/
def replaceValue (table : List Replacement) (value : String) : String :=
  match table.find? (·.wanted == value) with
  | some found => found.replacement
  | none => value

def columnLabel (label : String) (key : Key) : Key :=
  key.setProperty Property.columnName (.string label)

mutual

/-- Label all keys below a node. -/
def labelKeys (label : String) : Node → Node
  | .null => .null
  | .text leaf => .text leaf
  | .list items => .list (labelKeysOfItems label items)
  | .map entries => .map (labelKeysOfEntries label entries)

def labelKeysOfItems (label : String) : List Node → List Node
  | [] => []
  | item :: rest => labelKeys label item :: labelKeysOfItems label rest

def labelKeysOfEntries (label : String) : List (Key × Node) → List (Key × Node)
  | [] => []
  | (key, value) :: rest =>
      (columnLabel label key, labelKeys label value) :: labelKeysOfEntries label rest

end

/-- The label that a header cell gives its column: its first line. -/
def headerLabel? (cell : Node) : Option String :=
  cell.rendered?.bind fun leaf => Chars.firstLine? leaf.value

/-- Label the entries of a row, column by column. -/
def labelColumns : List (Option String) → List (Key × Node) → List (Key × Node)
  | some label :: labels, (key, value) :: rest =>
      (columnLabel label key, labelKeys label value) :: labelColumns labels rest
  | none :: labels, entry :: rest => entry :: labelColumns labels rest
  | _, entries => entries

/-- Label the columns of a row; other rows stay. -/
def labelRow (labels : List (Option String)) : Node → Node
  | .map entries => .map (labelColumns labels entries)
  | row => row

/-- The rows without the first, which labels their columns if it is a mapping. -/
def dropHeader : List Node → List Node
  | [] => []
  | .map header :: rows => rows.map (labelRow (header.map fun entry => headerLabel? entry.2))
  | _ :: rows => rows

/-- Work on the rows of a list; other nodes stay. -/
def onRows (f : List Node → List Node) : Node → Node
  | .list rows => .list (f rows)
  | node => node

/-- Answer for any output. -/
def apply (processor : PostProcessor) (config : Json) (output : Node) : Node :=
  match processor with
  | .inheritRowAbove =>
      onRows (fun rows => (namesIn config).foldl (fun rows name => fillDown name none rows) rows)
        output
  | .removeEmptyRows => onRows (List.filter (keepsRow (namesIn config))) output
  | .valueReplace =>
      match replacements? config with
      | some table => mapTexts (replaceValue table) output
      | none => output
  | .removeHeaderRow => onRows dropHeader output
  | .stripWhitespace => mapTexts Unicode.trim output

end PostProcessor

end ThreatModel
