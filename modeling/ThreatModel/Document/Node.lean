import ThreatModel.Document.Key
import ThreatModel.Document.Text

/-!
Trees of content: absent values, texts, lists, and mappings from keys to nodes. A mapping keeps the
order of first insertion, the first key of a name and its last value (`Mapping.insert`).
-/

namespace ThreatModel

inductive Node
  | null
  | text (text : Text)
  | list (items : List Node)
  | map (entries : List (Key × Node))
deriving Inhabited

/-- Keys with their nodes, in order of insertion; lookups go by name. -/
abbrev Mapping := List (Key × Node)

namespace Mapping

/-- Insert a value: under a name that is present, it replaces the value and the key stays. -/
def insert (entries : Mapping) (key : Key) (value : Node) : Mapping :=
  match entries with
  | [] => [(key, value)]
  | (first, kept) :: rest =>
      if first.name = key.name then (first, value) :: rest
      else (first, kept) :: insert rest key value

/-- Insert a value, and give the value that it takes the place of. -/
def insertReturning (entries : Mapping) (key : Key) (value : Node) : Option Node × Mapping :=
  match entries with
  | [] => (none, [(key, value)])
  | (first, kept) :: rest =>
      if first.name = key.name then (some kept, (first, value) :: rest)
      else
        let (previous, after) := insertReturning rest key value
        (previous, (first, kept) :: after)

/-- Insert entries one after the other. -/
def ofEntries (entries : List (Key × Node)) : Mapping :=
  entries.foldl (fun done entry => insert done entry.1 entry.2) []

/-- The entry of a name. -/
def find? (entries : Mapping) (name : String) : Option (Key × Node) :=
  List.find? (·.1.name == name) entries

def get? (entries : Mapping) (name : String) : Option Node :=
  (Mapping.find? entries name).map (·.2)

def getKey? (entries : Mapping) (name : String) : Option Key :=
  (Mapping.find? entries name).map (·.1)

def contains (entries : Mapping) (name : String) : Bool :=
  (get? entries name).isSome

/-- Put `value` in place of the value under a name; a name that is absent changes nothing. -/
def replace (entries : Mapping) (name : String) (value : Node) : Mapping :=
  match entries with
  | [] => []
  | (key, kept) :: rest =>
      if key.name = name then (key, value) :: rest else (key, kept) :: replace rest name value

def names (entries : Mapping) : List String :=
  entries.map (·.1.name)

end Mapping

namespace Node

/-- A text leaf of no provenance. -/
def ofString (value : String) : Node := .text (.ofString value)

/-- The name of a node's kind. -/
def kind : Node → String
  | .null => "null"
  | .text _ => "text"
  | .list _ => "list"
  | .map _ => "mapping"

def isNull : Node → Bool
  | .null => true
  | _ => false

def asText? : Node → Option Text
  | .text leaf => some leaf
  | _ => none

/-- Absent, blank text, or a list or mapping of nothing. -/
def isEmptyValue : Node → Bool
  | .null => true
  | .text leaf => leaf.isBlank
  | .list items => items.isEmpty
  | .map entries => entries.isEmpty

mutual

/-- The text leaves in document order. -/
def leaves : Node → List Text
  | .null => []
  | .text leaf => [leaf]
  | .list items => leavesOfItems items
  | .map entries => leavesOfEntries entries

def leavesOfItems : List Node → List Text
  | [] => []
  | item :: rest => leaves item ++ leavesOfItems rest

def leavesOfEntries : List (Key × Node) → List Text
  | [] => []
  | (_, value) :: rest => leaves value ++ leavesOfEntries rest

end

/-- The node as one text, its leaves line by line. Provenance stays when the text is one leaf. -/
def rendered? : Node → Option Text
  | .null => none
  | .text leaf => some leaf
  | node =>
      match node.leaves with
      | [] => some (.ofString "")
      | [leaf] => some leaf
      | leaves => some (.ofString ("\n".intercalate (leaves.map Text.value)))

mutual

/-- Equal shape, equal texts with their provenance, and keys of equal names. -/
def same : Node → Node → Bool
  | .null, .null => true
  | .text left, .text right => left == right
  | .list left, .list right => sameItems left right
  | .map left, .map right => sameEntries left right
  | _, _ => false

def sameItems : List Node → List Node → Bool
  | [], [] => true
  | left :: lefts, right :: rights => same left right && sameItems lefts rights
  | _, _ => false

def sameEntries : List (Key × Node) → List (Key × Node) → Bool
  | [], [] => true
  | (leftKey, left) :: lefts, (rightKey, right) :: rights =>
      leftKey.name == rightKey.name && same left right && sameEntries lefts rights
  | _, _ => false

end

end Node

end ThreatModel
